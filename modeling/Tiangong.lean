import Tiangong.InflightAccounting
import Tiangong.SingleFlight
import Tiangong.BindingAgreement
import Tiangong.StartedSideEffects
import Tiangong.ProbeAccounting
import Tiangong.FenceExclusion
import Tiangong.AggregateFold
import Tiangong.TailRecovery
import Tiangong.ProposalLines
import Tiangong.ExperienceArrival
import Tiangong.ReadinessStability
import Tiangong.FeishuAdmission
import Tiangong.DeliveryDrain
import Tiangong.DeliveryFence
import Tiangong.WechatOrder
import Tiangong.TrustStore
import Tiangong.DeliveryRaces
import Tiangong.WorldCutChains
import Tiangong.StaleChains
import Tiangong.CognitionRuns
import Tiangong.RegistryEpochs
import Tiangong.DeletedMemories
import Tiangong.TaskSurvival
import Tiangong.ErasedMemories
import Tiangong.StimulusRuns
import Tiangong.CapabilityAccounts
import Tiangong.SlotRuns
import Tiangong.ChannelRuns
import Tiangong.CommittedStops
import Tiangong.PolicyVerdicts
import Tiangong.ObligationMonotonicity
import Tiangong.RhythmRuns
import Tiangong.SharedOutbox
import Tiangong.CanonicalIdentity
import Tiangong.ObjectRuns
import Tiangong.RetrySchedule
import Tiangong.WilsonBound
import Tiangong.CallReachability
import Tiangong.InvalidationCascade
import Tiangong.JsonPointers
