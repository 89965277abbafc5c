import Component.CellRegistration.Model
import Component.CellRegistration.Safety
import Component.CollectionView
import Component.DispatchPool.Fairness
import Component.DispatchPool.Model
import Component.DispatchPool.Service
import Component.FastReadLayout.Model
import Component.FastReadLayout.Pages
import Component.Fishhook.Chain
import Component.Fishhook.Model
import Component.Fishhook.Rebinding
import Component.FlexibleLayout.Append
import Component.FlexibleLayout.Heights
import Component.FlexibleLayout.History
import Component.FlexibleLayout.Lines
import Component.FlexibleLayout.Model
import Component.FlexibleLayout.Placement
import Component.Geometry
import Component.Lib.Cells
import Component.Lib.Ledger
import Component.Lib.LineBreaking
import Component.Lib.LinkedList
import Component.Lib.Positions
import Component.Lib.Refinement
import Component.Lib.RoundRobin
import Component.Lib.Rounding
import Component.Lib.Run
import Component.Lib.Selection
import Component.Lib.Stacking
import Component.Lib.StateLog
import Component.Lib.Threads
import Component.Lib.Wrapping
import Component.Mediator.Cache
import Component.Mediator.Dispatch
import Component.Mediator.Model
import Component.MemoryCache.Eviction
import Component.MemoryCache.LinkedMap
import Component.MemoryCache.Model
import Component.MemoryCache.Recency
import Component.MemoryCache.Refinement
import Component.NetworkMonitor.Display
import Component.NetworkMonitor.Model
import Component.NetworkMonitor.Traffic
import Component.Refresh.Across
import Component.Refresh.Agreement
import Component.Refresh.Appearance
import Component.Refresh.AutoFooterAgreement
import Component.Refresh.BackFooterAgreement
import Component.Refresh.Callbacks
import Component.Refresh.Conservation
import Component.Refresh.Conservation.Attachment
import Component.Refresh.Conservation.Footers
import Component.Refresh.Conservation.Handlers
import Component.Refresh.Conservation.Header
import Component.Refresh.Conservation.Shares
import Component.Refresh.Dedicated
import Component.Refresh.Drain
import Component.Refresh.HeaderAgreement
import Component.Refresh.Moves
import Component.Refresh.ProgrammaticRefresh
import Component.Refresh.ReleaseIntent
import Component.Refresh.ScrollView
import Component.Refresh.StateMachine
import Component.Refresh.Symmetry
import Component.Refresh.System
import Component.Refresh.TopInset
import Component.Refresh.Trailer
import Component.Refresh.Transpose
import Component.Refresh.Trigger
import Component.Refresh.TriggerBudget
import Component.Refresh.View
import Component.Refresh.World
import Component.WaterLayout.Append
import Component.WaterLayout.Economy
import Component.WaterLayout.Model
import Component.WaterLayout.OrderIndependence
import Component.WaterLayout.Placement
import Component.WaterLayout.Prepare
import Component.WaterLayout.Queries
import Component.WaterLayout.Rows
import Component.WaterLayout.Spacing
import Component.WaterLayout.Turns
