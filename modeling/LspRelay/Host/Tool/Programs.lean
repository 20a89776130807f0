import LspRelay.Host.Editing.Run
import LspRelay.Host.Find.Run
import LspRelay.Host.Rows.Run
import LspRelay.Host.Tool.Blocks
import LspRelay.Host.Tool.Clock
import LspRelay.Host.Tool.Columns
import LspRelay.Host.Tool.Compare
import LspRelay.Host.Tool.Count
import LspRelay.Host.Tool.Digests
import LspRelay.Host.Tool.Dump
import LspRelay.Host.Tool.Encode
import LspRelay.Host.Tool.Evaluate
import LspRelay.Host.Tool.Exchange
import LspRelay.Host.Tool.Extract
import LspRelay.Host.Tool.Facts
import LspRelay.Host.Tool.Formatted
import LspRelay.Host.Tool.Gather
import LspRelay.Host.Tool.Join
import LspRelay.Host.Tool.Judge
import LspRelay.Host.Tool.Listing
import LspRelay.Host.Tool.Names
import LspRelay.Host.Tool.Order
import LspRelay.Host.Tool.Search
import LspRelay.Host.Tool.Sequence
import LspRelay.Host.Tool.Setup
import LspRelay.Host.Tool.Sort
import LspRelay.Host.Tool.Split
import LspRelay.Host.Tool.Talk

namespace LspRelay.Tool

def table : List (String × Command) :=
  [("[", test true),
   ("arch", arch),
   ("b2sum", blakeSum),
   ("base32", baseOf .base32),
   ("base64", baseOf .base64),
   ("basename", basename),
   ("basenc", basenc),
   ("cat", cat),
   ("chmod", chmod),
   ("choom", choom),
   ("chrt", chrt),
   ("cksum", cksum),
   ("cmp", cmp),
   ("comm", comm),
   ("cp", cp),
   ("cut", cut),
   ("date", date),
   ("dd", dd),
   ("diff", diff),
   ("dirname", dirname),
   ("echo", echo),
   ("egrep", grep 'E'),
   ("env", env),
   ("expand", expand),
   ("expr", expr),
   ("factor", factor),
   ("false", fun _ => Process.setStatus 1),
   ("fgrep", grep 'F'),
   ("find", find),
   ("flock", flock),
   ("fold", fold),
   ("grep", grep 'G'),
   ("groups", groupNames),
   ("head", head),
   ("hostname", hostname),
   ("id", identity),
   ("ionice", ionice),
   ("join", join),
   ("kill", kill),
   ("link", link),
   ("ln", ln),
   ("logname", logname),
   ("ls", ls),
   ("mawk", awk),
   ("md5sum", digestSum .md5),
   ("mkdir", mkdir),
   ("mkfifo", mkfifo),
   ("mknod", mknod),
   ("mktemp", mktemp),
   ("more", more),
   ("mv", mv),
   ("nice", nice),
   ("nl", nl),
   ("nohup", nohup),
   ("nproc", nproc),
   ("nsenter", runAfterOptions),
   ("od", od),
   ("paste", paste),
   ("pathchk", pathchk),
   ("printenv", printenv),
   ("printf", printf),
   ("prlimit", runAfterOptions),
   ("pwd", pwd),
   ("readlink", readlink),
   ("realpath", realpath),
   ("rev", rev),
   ("rgrep", fun args => grep 'G' (ofText "-r" :: args)),
   ("rm", rm),
   ("rmdir", rmdir),
   ("sed", sed),
   ("seq", seq),
   ("setarch", setarch),
   ("setpriv", runAfterOptions),
   ("setsid", setsid),
   ("sha1sum", digestSum .sha1),
   ("sha224sum", digestSum .sha224),
   ("sha256sum", digestSum .sha256),
   ("sha384sum", digestSum .sha384),
   ("sha512sum", digestSum .sha512),
   ("shuf", shuf),
   ("sleep", sleep),
   ("sort", sort),
   ("split", split),
   ("stat", stat),
   ("stdbuf", stdbuf),
   ("sum", sum),
   ("sync", sync),
   ("tac", tac),
   ("tail", tail),
   ("taskset", taskset),
   ("tee", tee),
   ("test", test false),
   ("timeout", timeout),
   ("touch", touch),
   ("tr", tr),
   ("true", fun _ => pure ()),
   ("truncate", truncate),
   ("tsort", tsort),
   ("tty", tty),
   ("uname", uname),
   ("unexpand", unexpand),
   ("uniq", uniq),
   ("unlink", unlink),
   ("unshare", runAfterOptions),
   ("users", fun _ => pure ()),
   ("wc", wc),
   ("which", which),
   ("which.debianutils", which),
   ("who", fun _ => pure ()),
   ("whoami", whoami),
   ("xargs", xargs),
   ("yes", yes)]

def programs (name : String) : Option Command := table.lookup name

end LspRelay.Tool
