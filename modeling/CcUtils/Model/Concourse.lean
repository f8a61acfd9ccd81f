import Mathlib.Data.List.Basic

namespace CcUtils.Model.Concourse

/-- `model.concourse.PipelineCleanupPolicy`. The modelled code only tests for `NO_CLEANUP`,
so every other policy is `other`. -/
inductive PipelineCleanupPolicy
  | noCleanup
  | other
  deriving DecidableEq, Repr

structure JobMapping where
  trustedTeams : List String
  cleanupPolicy : PipelineCleanupPolicy
  deriving DecidableEq, Repr

end CcUtils.Model.Concourse
