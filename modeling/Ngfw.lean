import Ngfw.Proof.Dataplane.Established
import Ngfw.Proof.Dataplane.Inspect
import Ngfw.Proof.Dataplane.GateSelection
import Ngfw.Proof.Proxy.Fields
import Ngfw.Proof.Engine.TemporaryBlocks
import Ngfw.Proof.Engine.KernelBlocks
import Ngfw.Proof.Engine.Revocation
import Ngfw.Proof.Engine.FailedActivation
import Ngfw.Proof.Session.Query
import Ngfw.Proof.Dataplane.TargetZone
import Ngfw.Proof.Connectivity.Normalization
import Ngfw.Proof.Dataplane.Epoch
import Ngfw.Proof.Auth.Store
import Ngfw.Proof.Engine.GateRuntime
import Ngfw.Proof.Inspection.Rotation
import Ngfw.Proof.Engine.SecurityPages
import Ngfw.Proof.Session.Expiry
import Ngfw.Proof.Connectivity.Exclusions
import Ngfw.Proof.Inspection.Evidence
import Ngfw.Proof.Config.Editor
import Ngfw.Proof.Config.History
import Ngfw.Proof.Inspection.Application
import Ngfw.Proof.Engine.SessionChange
