import CcUtils.Python.Exceptions
import CcUtils.Python.Str
import CcUtils.Python.Effects
import CcUtils.Python.Sorted
import CcUtils.Model.Concourse
import CcUtils.Concourse.Descriptor
import CcUtils.Concourse.Workers
import CcUtils.Concourse.ResultProcessor
import CcUtils.Whd.PullRequest
import CcUtils.Cnudie.Iter
import CcUtils.Cnudie.Retrieve
import CcUtils.Cnudie.Composite
import CcUtils.Oci.Replicate
import CcUtils.Oci.Tar
import CcUtils.Whd.Dispatcher
import CcUtils.Cnudie.Components
import CcUtils.Actions.OcmUpgrade
import CcUtils.Github.ComplianceIssue
import CcUtils.Github.Util
import CcUtils.Oci.ReplicateCalls
import CcUtils.Python.Objects
import CcUtils.Concourse.Model.Base
import CcUtils.Concourse.Validation
import CcUtils.Concourse.Deployer
import CcUtils.Concourse.Pipelines
import CcUtils.Cnudie.CacheCoherence
import CcUtils.Oci.ReplicateBlobs
import CcUtils.Whd.PushEvent
import CcUtils.Mailutil
import CcUtils.Github.RepositoryHelper
