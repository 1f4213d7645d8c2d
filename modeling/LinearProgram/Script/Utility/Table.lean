import LinearProgram.Script.Utility.Copy
import LinearProgram.Script.Utility.Expr
import LinearProgram.Script.Utility.File
import LinearProgram.Script.Utility.Grep
import LinearProgram.Script.Utility.Sed
import LinearProgram.Script.Utility.Sequence
import LinearProgram.Script.Utility.Translate

/-!
The utilities that there are, by name.

* `Utility.table`, `utility?`: what each does.
-/

namespace LinearProgram

namespace Script

/-- The utilities by their names. -/
def Utility.table : List (String × Utility) :=
  [("[", Utility.bracket), ("basename", Utility.basename), ("cat", Utility.cat), ("chmod", Utility.chmod),
   ("cmp", Utility.cmp), ("cp", Utility.cp), ("cut", Utility.cut), ("date", Utility.date),
   ("dirname", Utility.dirname), ("echo", Utility.echo), ("egrep", Utility.egrep), ("expr", Utility.expr),
   ("false", Utility.failure), ("fgrep", Utility.fgrep), ("grep", Utility.grep), ("head", Utility.head),
   ("id", Utility.id), ("link", Utility.link), ("ln", Utility.ln), ("ls", Utility.ls), ("md5sum", Utility.md5sum),
   ("mkdir", Utility.mkdir), ("mktemp", Utility.mktemp), ("mv", Utility.mv), ("paste", Utility.paste),
   ("printenv", Utility.printenv), ("printf", Utility.printf), ("pwd", Utility.pwd),
   ("readlink", Utility.readlink), ("realpath", Utility.realpath), ("rev", Utility.rev), ("rm", Utility.rm),
   ("rmdir", Utility.rmdir), ("sed", Utility.sed), ("seq", Utility.seq), ("sleep", Utility.sleep),
   ("sort", Utility.sort), ("sync", Utility.sync), ("tac", Utility.tac), ("tail", Utility.tail),
   ("tee", Utility.tee), ("test", Utility.test), ("touch", Utility.touch), ("tr", Utility.tr),
   ("true", Utility.succeed), ("uname", Utility.uname), ("uniq", Utility.uniq), ("unlink", Utility.unlink),
   ("wc", Utility.wc), ("whoami", Utility.whoami), ("yes", Utility.yes)]

/-- What the utility with a name does. -/
def utility? (name : ByteText) : Option Utility := Utility.table.lookup (String.ofList name)

end Script

end LinearProgram
