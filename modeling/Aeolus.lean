import Aeolus.Automations.ExecutionGateKeys
import Aeolus.Automations.CommandScopeExact
import Aeolus.Mqtt.TopicIdentity
import Aeolus.Db.MigrationResume
import Aeolus.Auth.AdminContinuity
import Aeolus.Automations.SharedStateCoalescing
import Aeolus.Automations.CausalDepth
import Aeolus.Api.ScopedActions
import Aeolus.Api.MqttCommandProfile
import Aeolus.Demo.DemoScrub
import Aeolus.Demo.DemoEnvelope
import Aeolus.Mqtt.MqttConnection
import Aeolus.Metrics.WindowPartition
import Aeolus.Storage.QueryConfinement
import Aeolus.Automations.StateBroadcast
import Aeolus.Automations.ConditionGuard
import Aeolus.Automations.TriggerVisibility
import Aeolus.Frontend.FrameConfinement
import Aeolus.Api.RunningRules
import Aeolus.Frontend.ProofFidelity
import Aeolus.Frontend.LayoutEdits
import Aeolus.Frontend.LogoutFinality
import Aeolus.Frontend.DeviceMirror
import Aeolus.Mqtt.PasswordFile
import Aeolus.Frontend.IdleSession
import Aeolus.Automations.ScriptTruth
import Aeolus.Automations.ActionLoop
import Aeolus.Auth.AutomationExposure
import Aeolus.Auth.UserUpdate
import Aeolus.Security.AddressFilter
import Aeolus.Connectors.CorrelatedCommand
import Aeolus.Automations.RequestedTier
import Aeolus.Connectors.OptimisticUpdate
import Aeolus.Storage.TagFilter
import Aeolus.Automations.ExecutionHistory
import Aeolus.Automations.ConditionSpec
import Aeolus.Automations.TriggerPatterns
import Aeolus.Mqtt.PublishPolicy
import Aeolus.Api.FaithfulExport
import Aeolus.Automations.AutomationStateStore
import Aeolus.Automations.CommandResultCollector
import Aeolus.Frontend.WsClient
import Aeolus.Frontend.CommandActivity
import Aeolus.Frontend.DataExplorer
import Aeolus.Automations.EventEnvelope
import Aeolus.Automations.SetStateAndFire
import Aeolus.Automations.ProjectBundle
import Aeolus.Api.LayoutReconciliation
import Aeolus.Frontend.ChartCoverage
import Aeolus.Frontend.StateMirror
import Aeolus.Auth.SessionLimits
import Aeolus.Simulator.TimerConservation
import Aeolus.Websocket.SessionBounds
import Aeolus.Simulator.CommandOnce
