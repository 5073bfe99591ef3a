import Kepler.AclOrder
import Kepler.PathSpelling
import Kepler.Attenuation
import Kepler.EnvFiles
import Kepler.Interpolation
import Kepler.HardeningFloor
import Kepler.Inspect
import Kepler.TokenLifetime
import Kepler.StopFinality
import Kepler.StaleExits
import Kepler.ExitRestart
import Kepler.Quiescence
import Kepler.UnhandledFailures
import Kepler.DependencyWaits
import Kepler.GivenUp
import Kepler.HookFailures
import Kepler.LogPages
import Kepler.ForegroundDrain
import Kepler.SignalEdges
import Kepler.RestartSections
import Kepler.DependencyCycles
import Kepler.StartLevels
import Kepler.ServiceClosure
import Kepler.QuerySql
import Kepler.LikePatterns
import Kepler.RestartDelay
import Kepler.FileChanges
import Kepler.Exchange
import Kepler.Collector
