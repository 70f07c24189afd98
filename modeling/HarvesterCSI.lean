import HarvesterCSI.Calls.Prog
import HarvesterCSI.Calls.Pool
import HarvesterCSI.Calls.Series
import HarvesterCSI.Calls.Rely
import HarvesterCSI.Calls.Store
import HarvesterCSI.Text.Semver
import HarvesterCSI.Text.Precedence
import HarvesterCSI.Text.Mac
import HarvesterCSI.Objects
import HarvesterCSI.Cluster
import HarvesterCSI.Guest
import HarvesterCSI.Controller.Server
import HarvesterCSI.Controller.Volumes
import HarvesterCSI.Controller.Attach
import HarvesterCSI.Controller.Snapshots
import HarvesterCSI.Controller.Expand
import HarvesterCSI.NodeController
import HarvesterCSI.Driver
import HarvesterCSI.NodeServer
import HarvesterCSI.NodeStats
import HarvesterCSI.Manager
import HarvesterCSI.Endpoint
import HarvesterCSI.Laws.Create
import HarvesterCSI.Laws.Capabilities
import HarvesterCSI.Laws.Patches
import HarvesterCSI.Laws.Attach
import HarvesterCSI.Laws.Mechanism
import HarvesterCSI.Laws.VMSpec
import HarvesterCSI.Laws.VMLists
import HarvesterCSI.Laws.Unplug
import HarvesterCSI.Laws.Retry
import HarvesterCSI.Laws.SharedExport
import HarvesterCSI.Laws.Deletion
import HarvesterCSI.Laws.Unpublishing
import HarvesterCSI.Laws.NodeRecovery
import HarvesterCSI.Laws.Taints
import HarvesterCSI.Laws.Attachments
import HarvesterCSI.Laws.DoubleAttach
import HarvesterCSI.Laws.Listing
import HarvesterCSI.Laws.Paging
import HarvesterCSI.Laws.Sources
import HarvesterCSI.Laws.SnapshotIds
import HarvesterCSI.Laws.Readiness
import HarvesterCSI.Laws.Restored
import HarvesterCSI.Laws.Sizes
import HarvesterCSI.Laws.Provisioning
import HarvesterCSI.Laws.Expansion
import HarvesterCSI.Laws.Devices
import HarvesterCSI.Laws.Unmounting
import HarvesterCSI.Laws.Staging
import HarvesterCSI.Laws.Mounts
import HarvesterCSI.Laws.Growth
import HarvesterCSI.Laws.Versions
import HarvesterCSI.Laws.Discovery
import HarvesterCSI.Laws.Endpoints
import HarvesterCSI.Laws.Effects
import HarvesterCSI.Laws.ForeignVolumes
import HarvesterCSI.Laws.Crashes
import HarvesterCSI.Laws.Plugged
import HarvesterCSI.Laws.Hotplug
import HarvesterCSI.Laws.Lifecycle
import HarvesterCSI.Laws.Catalogue
import HarvesterCSI.Laws.NodePaths
import HarvesterCSI.Laws.MountTable
import HarvesterCSI.Laws.Usage
import HarvesterCSI.Laws.Enlarging
import HarvesterCSI.Laws.Fencing
import HarvesterCSI.Laws.Shares
