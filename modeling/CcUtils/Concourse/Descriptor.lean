import CcUtils.Python.Exceptions

namespace CcUtils.Concourse.Descriptor

open CcUtils.Python.Exceptions

/-- `DeployStatus` is an `IntEnum` used as a bit set: the deployer returns
`SUCCEEDED | CREATED` for a new pipeline. -/
structure DeployStatus where
  bits : Nat
  deriving DecidableEq, Repr

def DeployStatus.succeeded : DeployStatus := ⟨1⟩
def DeployStatus.failed : DeployStatus := ⟨2⟩
def DeployStatus.skipped : DeployStatus := ⟨4⟩
def DeployStatus.created : DeployStatus := ⟨8⟩

def DeployStatus.has (status flag : DeployStatus) : Bool := status.bits &&& flag.bits != 0

def DeployStatus.or (status flag : DeployStatus) : DeployStatus := ⟨status.bits ||| flag.bits⟩

inductive RenderStatus
  | succeeded
  | failed
  deriving DecidableEq, Repr

inductive ErrorDetails
  | text (s : String)
  | traceback (e : PyExc)
  | exception (e : PyExc)
  deriving DecidableEq, Repr

structure DefinitionDescriptor where
  pipelineName : String
  concourseTargetCfg : String
  concourseTargetTeam : String
  pipeline : Option String
  exception : Option PyExc
  deriving DecidableEq, Repr

def DefinitionDescriptor.concourseTarget (d : DefinitionDescriptor) : String × String :=
  (d.concourseTargetCfg, d.concourseTargetTeam)

structure RenderResult where
  definitionDescriptor : DefinitionDescriptor
  renderStatus : RenderStatus
  errorDetails : Option ErrorDetails := none
  exception : Option PyExc := none
  deriving DecidableEq, Repr

structure DeployResult where
  definitionDescriptor : DefinitionDescriptor
  deployStatus : DeployStatus
  errorDetails : Option ErrorDetails := none
  deriving DecidableEq, Repr

/-- `DeployResult.ok`. The identity tests `is SKIPPED` and `is FAILED` compare with the
members, the values the replicator produces for these statuses. -/
def DeployResult.ok (r : DeployResult) : Except PyExc Bool :=
  if r.deployStatus.has .succeeded then .ok true
  else if r.deployStatus = .skipped then .ok true
  else if r.deployStatus = .failed then .ok false
  else .error ⟨.notImplementedError, toString r.deployStatus.bits⟩

def Renderer.render (renderImpl : DefinitionDescriptor → Except PyExc DefinitionDescriptor)
    (d : DefinitionDescriptor) : Except PyExc RenderResult :=
  match renderImpl d with
  | .ok rendered => .ok { definitionDescriptor := rendered, renderStatus := .succeeded }
  | .error e =>
    if e.isException then
      .ok { definitionDescriptor := d, renderStatus := .failed,
            errorDetails := some (.traceback e), exception := some e }
    else .error e

end CcUtils.Concourse.Descriptor
