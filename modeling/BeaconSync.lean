import BeaconSync.Basic
import BeaconSync.Synchronizer.State
import BeaconSync.Synchronizer.Run
import BeaconSync.Synchronizer.Cursor
import BeaconSync.Synchronizer.Storage
import BeaconSync.Synchronizer.Cache
import BeaconSync.Synchronizer.TargetRoot
import BeaconSync.Synchronizer.Retry
import BeaconSync.Synchronizer.Agreement
import BeaconSync.Synchronizer.Progress
import BeaconSync.Orchestrator.System
import BeaconSync.Orchestrator.Locks
import BeaconSync.Handlers.SlotRoute
import BeaconSync.Handlers.SlotPage
