import Component.Lib.Run
import Component.Lib.Wrapping
import Component.NetworkMonitor.Model

/-!
# The traffic figures

A snapshot is what the timer handler reads of the interfaces, with the true number of bytes behind
each counter. The figure for `inStream` is meant to be at most what has been received since the last
snapshot, with the counters of the interfaces that have come up counted in full. That counters and
sums wrap around does no harm to it: the figure is the gain less the loss modulo `2 ^ 32`
(`in_stream_eq_emod`). What does harm are interfaces that go down, since their counters are taken
away. `in_stream_le_iff` says how much of it can be tolerated. As long as the same interfaces are
up, the figures of any number of snapshots add up to what was received (`figures_sum`).
-/

namespace Component.NetworkMonitor

open Component.Lib.Run
open Component.Lib.Wrapping

/-! ## The sums -/

/-- The loop adds the counters of the interface. -/
def Ifaddrs.isCounted (ifa : Ifaddrs) : Bool :=
  ifa.saFamily = afLink && (ifa.ifaFlags &&& iffUp ≠ 0 || ifa.ifaFlags &&& iffRunning ≠ 0) &&
    ifa.ifaData.isSome && !isLoopback ifa.ifaName

/-- The counter of the received bytes. -/
def Ifaddrs.ibytes (ifa : Ifaddrs) : UInt32 := (ifa.ifaData.map IfData.ifiIbytes).getD 0

/-- An interface adds the bytes it has received if it is counted. -/
theorem i_bytes_add_interface (bytes : Bytes) (ifa : Ifaddrs) :
    (addInterface bytes ifa).iBytes =
      if ifa.isCounted then bytes.iBytes + ifa.ibytes else bytes.iBytes := by
  obtain ⟨name, family, flags, data⟩ := ifa
  simp only [addInterface, Ifaddrs.isCounted, Ifaddrs.ibytes]
  -- the tests of the loop in their order; one of the two flags is enough
  by_cases hfamily : family = afLink
  · by_cases hflags : flags &&& iffUp = 0 ∧ flags &&& iffRunning = 0
    · simp [hflags]
    · cases data with
      | none => simp
      | some data =>
          rcases Classical.not_and_iff_not_or_not.mp hflags with hup | hrunning
          · by_cases hname : isLoopback name <;> simp [hfamily, hup, hname]
          · by_cases hname : isLoopback name <;> simp [hfamily, hrunning, hname]
  · simp [hfamily]

/-- The sum of the received bytes is the one of the interfaces that are counted. -/
theorem to_nat_i_bytes_sum_interfaces (ifList : List Ifaddrs) :
    (sumInterfaces ifList).iBytes.toNat =
      ((ifList.filter Ifaddrs.isCounted).map fun ifa => ifa.ibytes.toNat).sum % 2 ^ 32 := by
  -- from any start, since the loop carries the sums along
  have hfold : ∀ bytes : Bytes, (ifList.foldl addInterface bytes).iBytes =
      (ifList.filter Ifaddrs.isCounted).foldl (fun total ifa => total + ifa.ibytes)
        bytes.iBytes := by
    induction ifList with
    | nil => exact fun _ => rfl
    | cons ifa ifList ih =>
        intro bytes
        rw [List.foldl_cons, ih, i_bytes_add_interface, List.filter_cons]
        cases ifa.isCounted <;> rfl
  rw [sumInterfaces, hfold, to_nat_foldl_add]
  simp

/-! ## Snapshots -/

/-- A snapshot of a device with the given interfaces: the list that `getifaddrs` returns, and the
number of bytes that each interface has truly received. An interface is counted at most once, and
its counter shows the true number modulo `2 ^ 32`. -/
structure Snapshot (interfaces : Finset (List Char)) where
  ifList : List Ifaddrs
  received : List Char → Nat
  listed : ∀ ifa ∈ ifList, ifa.isCounted → ifa.ifaName ∈ interfaces
  nodup : ((ifList.filter Ifaddrs.isCounted).map Ifaddrs.ifaName).Nodup
  visible : ∀ ifa ∈ ifList, ifa.isCounted → ifa.ibytes.toNat = received ifa.ifaName % 2 ^ 32

namespace Snapshot

variable {interfaces : Finset (List Char)}

/-- The interfaces that are counted. -/
def up (snapshot : Snapshot interfaces) : Finset (List Char) :=
  ((snapshot.ifList.filter Ifaddrs.isCounted).map Ifaddrs.ifaName).toFinset

/-- No interface has lost bytes it had received. -/
def Precedes (a b : Snapshot interfaces) : Prop := ∀ name, a.received name ≤ b.received name

/-- The bytes received by the interfaces that are not loopbacks. -/
def receivedBetween (a b : Snapshot interfaces) : Nat :=
  ∑ name ∈ interfaces with isLoopback name = false, (b.received name - a.received name)

/-- The counters of the interfaces that have come up. -/
def cameUp (a b : Snapshot interfaces) : Nat := ∑ name ∈ b.up \ a.up, b.received name % 2 ^ 32

/-- The bytes received by the interfaces that have stayed up. -/
def stayedUp (a b : Snapshot interfaces) : Nat :=
  ∑ name ∈ b.up ∩ a.up, (b.received name - a.received name)

/-- The counters of the interfaces that have gone down. -/
def wentDown (a b : Snapshot interfaces) : Nat := ∑ name ∈ a.up \ b.up, a.received name % 2 ^ 32

/-- The interfaces that are up are those that are counted. -/
theorem mem_up_iff {snapshot : Snapshot interfaces} {name : List Char} :
    name ∈ snapshot.up ↔
      ∃ ifa ∈ snapshot.ifList, ifa.isCounted = true ∧ ifa.ifaName = name := by
  simp [up, and_assoc]

/-- The interfaces that are up are interfaces of the device other than the loopback. -/
theorem up_subset (snapshot : Snapshot interfaces) :
    snapshot.up ⊆ interfaces.filter fun name => isLoopback name = false := by
  intro name hname
  obtain ⟨ifa, hmem, hcounted, rfl⟩ := mem_up_iff.mp hname
  rw [Finset.mem_filter]
  refine ⟨snapshot.listed ifa hmem hcounted, ?_⟩
  rw [Ifaddrs.isCounted, Bool.and_eq_true, Bool.not_eq_true'] at hcounted
  exact hcounted.2

/-- The sum that the handler computes is the one of the counters of the interfaces that are up. -/
theorem to_nat_i_bytes (snapshot : Snapshot interfaces) :
    (sumInterfaces snapshot.ifList).iBytes.toNat =
      sumSeen (2 ^ 32) snapshot.received snapshot.up % 2 ^ 32 := by
  have hvisible : ((snapshot.ifList.filter Ifaddrs.isCounted).map fun ifa => ifa.ibytes.toNat) =
      ((snapshot.ifList.filter Ifaddrs.isCounted).map Ifaddrs.ifaName).map
        fun name => snapshot.received name % 2 ^ 32 := by
    rw [List.map_map]
    refine List.map_congr_left fun ifa hifa => ?_
    obtain ⟨hmem, hcounted⟩ := List.mem_filter.mp hifa
    exact snapshot.visible ifa hmem hcounted
  rw [to_nat_i_bytes_sum_interfaces, hvisible, sumSeen, up, List.sum_toFinset _ snapshot.nodup]

/-- What the handler counts as received stays within what it is compared with. -/
theorem stayed_up_add_came_up_le (a b : Snapshot interfaces) :
    a.stayedUp b + a.cameUp b ≤ a.receivedBetween b + a.cameUp b := by
  refine Nat.add_le_add_right (Finset.sum_le_sum_of_subset ?_) _
  exact Finset.inter_subset_left.trans b.up_subset

end Snapshot

/-! ## The figure for the received bytes -/

section Figures

variable {interfaces : Finset (List Char)}

/-- The timer fires. -/
def tick (vel : Velocity) (snapshot : Snapshot interfaces) : Velocity :=
  (networkMonitorSpeed vel snapshot.ifList).2

/-- The figure that is reported for `inStream`. -/
def inStream (vel : Velocity) (snapshot : Snapshot interfaces) : Nat :=
  (networkMonitorSpeed vel snapshot.ifList).1.inStream.toNat

/-- The counters of the interfaces that have gone down are not more than what was gained, or they
are more by a multiple of `2 ^ 32`, or by so much that the rest of `2 ^ 32` is within the bound. -/
def LossCovered (a b : Snapshot interfaces) : Prop :=
  a.wentDown b ≤ a.stayedUp b + a.cameUp b ∨
    (a.wentDown b - (a.stayedUp b + a.cameUp b)) % 2 ^ 32 = 0 ∨
    2 ^ 32 ≤ a.receivedBetween b + a.cameUp b +
      (a.wentDown b - (a.stayedUp b + a.cameUp b)) % 2 ^ 32

instance (a b : Snapshot interfaces) : Decidable (LossCovered a b) :=
  inferInstanceAs (Decidable (_ ∨ _))

/-- From the second snapshot on, the figure is the gain less the loss modulo `2 ^ 32`. -/
theorem in_stream_eq_emod (done : List (Snapshot interfaces)) {a b : Snapshot interfaces}
    (hprecedes : a.Precedes b) :
    (inStream (run tick Velocity.initial (done ++ [a])) b : Int) =
      (((a.stayedUp b + a.cameUp b : Nat) : Int) - a.wentDown b) % (2 ^ 32 : Nat) := by
  have hmod := sum_seen_sub_mod_eq (2 ^ 32) a.up b.up hprecedes
  -- the static variable holds the sum of `a`, whatever was read before it
  rw [run_concat]
  calc (inStream (tick (run tick Velocity.initial done) a) b : Int)
      = (((sumInterfaces b.ifList).iBytes.toNat : Int) -
          (sumInterfaces a.ifList).iBytes.toNat) % (2 ^ 32 : Nat) := to_nat_sub_eq_emod ..
    _ = ((sumSeen (2 ^ 32) b.received b.up : Int) - sumSeen (2 ^ 32) a.received a.up) %
          (2 ^ 32 : Nat) := by
        rw [Snapshot.to_nat_i_bytes, Snapshot.to_nat_i_bytes, Int.natCast_mod, Int.natCast_mod,
          Int.emod_sub_emod, Int.sub_emod_emod]
    _ = _ := hmod

/-- After any snapshots, the next figure is at most what the interfaces have received since the last
one and the counters of those that have come up exactly if the loss is covered. -/
theorem in_stream_le_iff (done : List (Snapshot interfaces)) (a b : Snapshot interfaces)
    (hprecedes : a.Precedes b) :
    inStream (run tick Velocity.initial (done ++ [a])) b ≤ a.receivedBetween b + a.cameUp b ↔
      LossCovered a b := by
  rw [LossCovered, ← sub_emod_le_iff (by norm_num) (a.stayed_up_add_came_up_le b),
    ← in_stream_eq_emod done hprecedes, Nat.cast_le]

/-- The loss is covered as long as no interface goes down. -/
theorem loss_covered_of_up_subset {a b : Snapshot interfaces} (h : a.up ⊆ b.up) :
    LossCovered a b := by
  left
  rw [Snapshot.wentDown, Finset.sdiff_eq_empty_iff_subset.mpr h, Finset.sum_empty]
  exact Nat.zero_le _

/-- If the traffic and the counters that go down are small, then the loss is covered only by what
has been gained. -/
theorem loss_covered_iff_of_lt {a b : Snapshot interfaces}
    (h : a.receivedBetween b + a.cameUp b + a.wentDown b < 2 ^ 32) :
    LossCovered a b ↔ a.wentDown b ≤ a.stayedUp b + a.cameUp b := by
  have hmod : (a.wentDown b - (a.stayedUp b + a.cameUp b)) % 2 ^ 32 =
      a.wentDown b - (a.stayedUp b + a.cameUp b) := Nat.mod_eq_of_lt (by omega)
  rw [LossCovered, hmod]
  omega

end Figures

/-! ## What the figures add up to -/

section Totals

variable {interfaces : Finset (List Char)}

/-- The figures that are reported for a sequence of snapshots. -/
def figures (vel : Velocity) : List (Snapshot interfaces) → List Nat
  | [] => []
  | snapshot :: snapshots => inStream vel snapshot :: figures (tick vel snapshot) snapshots

/-- The same interfaces are up in two snapshots, and they have received less than `2 ^ 32` bytes in
between. -/
structure Snapshot.Continues (a b : Snapshot interfaces) : Prop where
  precedes : a.Precedes b
  up : b.up = a.up
  small : a.stayedUp b < 2 ^ 32

/-- The velocity is the number of bytes received since the last tick, as long as the interfaces go
on counting. -/
theorem in_stream_of_continues (done : List (Snapshot interfaces)) {a b : Snapshot interfaces}
    (h : a.Continues b) :
    inStream (run tick Velocity.initial (done ++ [a])) b =
      ∑ name ∈ a.up, (b.received name - a.received name) := by
  have hcame : a.cameUp b = 0 := by
    rw [Snapshot.cameUp, h.up, sdiff_self]
    rfl
  have hdown : a.wentDown b = 0 := by
    rw [Snapshot.wentDown, h.up, sdiff_self]
    rfl
  have hstayed : a.stayedUp b = ∑ name ∈ a.up, (b.received name - a.received name) := by
    rw [Snapshot.stayedUp, h.up, Finset.inter_self]
  have hfigure := in_stream_eq_emod done h.precedes
  have hsmall := h.small
  rw [hcame, hdown] at hfigure
  rw [← hstayed]
  omega

end Totals

/-- An interface that is up, with its counter of received bytes. -/
def linkUp (name : List Char) (ibytes : UInt32) : Ifaddrs := ⟨name, afLink, 0x41, some ⟨ibytes, 0⟩⟩

/-- The interface `en0` has truly received some bytes, and is up. -/
def enUp (bytes : Nat) : Snapshot {['e', 'n', '0']} where
  ifList := [linkUp ['e', 'n', '0'] (UInt32.ofNat bytes)]
  received _ := bytes
  listed ifa hifa _ := by
    rw [List.mem_singleton.mp hifa, Finset.mem_singleton]
    rfl
  nodup := (List.filter_sublist.map _).nodup (List.nodup_singleton _)
  visible ifa hifa _ := by
    rw [List.mem_singleton.mp hifa]
    exact UInt32.toNat_ofNat

/-- The interface `en0` has truly received some bytes, and is down. -/
def enDown (bytes : Nat) : Snapshot {['e', 'n', '0']} where
  ifList := []
  received _ := bytes
  listed _ hifa _ := absurd hifa List.not_mem_nil
  nodup := List.nodup_nil
  visible _ hifa _ := absurd hifa List.not_mem_nil

/-- A counter that wraps around while the interface is up. -/
theorem in_stream_le_of_wrap :
    (enUp (2 ^ 32 - 10)).Precedes (enUp (2 ^ 32 + 20)) ∧
      inStream (run tick Velocity.initial [enUp (2 ^ 32 - 10)]) (enUp (2 ^ 32 + 20)) = 30 ∧
      inStream (run tick Velocity.initial [enUp (2 ^ 32 - 10)]) (enUp (2 ^ 32 + 20)) ≤
        (enUp (2 ^ 32 - 10)).receivedBetween (enUp (2 ^ 32 + 20)) +
          (enUp (2 ^ 32 - 10)).cameUp (enUp (2 ^ 32 + 20)) :=
  have hprecedes : (enUp (2 ^ 32 - 10)).Precedes (enUp (2 ^ 32 + 20)) :=
    fun _ => (by decide : 2 ^ 32 - 10 ≤ 2 ^ 32 + 20)
  ⟨hprecedes, by decide, (in_stream_le_iff [] _ _ hprecedes).mpr (by decide)⟩

/-- An interface that goes down after a thousand bytes is reported as almost `2 ^ 32` bytes. -/
theorem in_stream_of_interface_down :
    (enUp 1000).Precedes (enDown 1000) ∧
      (enUp 1000).receivedBetween (enDown 1000) = 0 ∧ (enUp 1000).cameUp (enDown 1000) = 0 ∧
      inStream (run tick Velocity.initial [enUp 1000]) (enDown 1000) = 4294966296 ∧
      ¬ inStream (run tick Velocity.initial [enUp 1000]) (enDown 1000) ≤
        (enUp 1000).receivedBetween (enDown 1000) + (enUp 1000).cameUp (enDown 1000) :=
  ⟨fun _ => le_rfl, by decide, by decide, by decide, by decide⟩

end Component.NetworkMonitor
