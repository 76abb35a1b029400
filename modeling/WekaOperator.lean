import WekaOperator.Migrate.Finalize
import WekaOperator.Migrate.Protocol
import WekaOperator.Migrate.Skipped
import WekaOperator.Rotate.Verified
import WekaOperator.Rotate.Exclusion
import WekaOperator.StaleDrives.Live
import WekaOperator.Planner.LeastLayout
import WekaOperator.Planner.Converge
import WekaOperator.Allocator.ByNumber
import WekaOperator.Allocator.Served
import WekaOperator.Ports.Gaps
import WekaOperator.Ports.FreeRange
import WekaOperator.Ports.WholeStatus
import WekaOperator.Upgrade.Rotation
import WekaOperator.Upgrade.PhaseOrder
import WekaOperator.Upgrade.Frontends
import WekaOperator.Planner.SteadyState
import WekaOperator.Containers.Apply
import WekaOperator.Containers.Formation
import WekaOperator.Containers.SpecUpdates
import WekaOperator.Validation.SizingMode
import WekaOperator.SignDrives.Stored
import WekaOperator.SignDrives.SharedCapacity
import WekaOperator.Planner.OrderFree
import WekaOperator.Allocator.Exclusive
import WekaOperator.Deleting.Deactivated
import WekaOperator.DriveRemoval.Recovery
import WekaOperator.DriveRemoval.EnsureDrives
import WekaOperator.DriveRemoval.Tenants
import WekaOperator.Daemonset.Again
import WekaOperator.Settings.Refresh
import WekaOperator.Clients.Names
import WekaOperator.Nfs.InterfacePorts
import WekaOperator.Clients.RuntimePorts
import WekaOperator.Clients.Hugepages
import WekaOperator.Operations.EnsureNics
import WekaOperator.Containers.NumaClaim
import WekaOperator.Discovery.JoinIps
import WekaOperator.Planner.Uniform
