import Checkup.Shell.Utility.Characters
import Checkup.Shell.Utility.Columns
import Checkup.Shell.Utility.Compare
import Checkup.Shell.Utility.Count
import Checkup.Shell.Utility.Date
import Checkup.Shell.Utility.Edit
import Checkup.Shell.Utility.Evaluate
import Checkup.Shell.Utility.Excerpt
import Checkup.Shell.Utility.Files
import Checkup.Shell.Utility.Listing
import Checkup.Shell.Utility.Order
import Checkup.Shell.Utility.Search
import Checkup.Shell.Utility.System

/-!
# The utilities

All utilities by their names.
-/

namespace Checkup.Shell

/-- All utilities by their names. -/
def utilities : List (String × Utility) :=
  [("basename", basename), ("cat", cat), ("chmod", chmod), ("cmp", cmp), ("comm", comm), ("cp", cp),
   ("cut", cut), ("date", date), ("diff", diff), ("dirname", dirname), ("echo", echoArguments),
   ("egrep", searchLines true false), ("expand", expand), ("expr", expr), ("false", fail),
   ("fgrep", searchLines false true), ("fold", fold), ("grep", grep), ("head", head),
   ("hostname", hostname), ("id", idOfUser), ("ln", ln), ("ls", ls), ("mkdir", mkdir),
   ("mktemp", mktemp), ("mv", mv), ("nl", nl), ("od", od), ("paste", paste), ("printenv", printenv),
   ("pwd", currentFolder), ("readlink", readlink), ("realpath", realpath), ("rev", rev),
   ("rm", rm), ("rmdir", rmdir),
   ("sed", sed), ("seq", seq), ("sleep", sleep), ("sort", sort), ("split", split), ("stat", stat),
   ("tac", tac), ("tail", tail), ("tee", tee), ("touch", touch), ("tr", tr), ("true", succeed),
   ("uname", uname), ("uniq", uniq), ("wc", wc), ("which", which), ("whoami", whoami), ("yes", yes)]

end Checkup.Shell
