import LspRelay.Host.Regex.Reader
import LspRelay.Host.Rows.Value

namespace LspRelay.Rows

inductive Arithmetic where
  | add
  | subtract
  | multiply
  | divide
  | remainder
  | power
  deriving Repr, DecidableEq

inductive Comparison where
  | less
  | atMost
  | same
  | different
  | atLeast
  | more
  deriving Repr, DecidableEq

inductive BuiltIn where
  | length
  | part
  | position
  | split
  | replaceFirst
  | replaceAll
  | find
  | format
  | sine
  | cosine
  | angle
  | exponential
  | logarithm
  | root
  | whole
  | random
  | seed
  | lower
  | upper
  | run
  | close
  | flush
  | time
  | dateText
  | dateTime
  deriving Repr, DecidableEq

inductive Origin where
  | input
  | file
  | command
  deriving Repr, DecidableEq

mutual

inductive Expr where
  | number (f : Float)
  | text (bs : Bytes)
  | pattern (r : Regex)
  | place (p : Place)
  | assign (p : Place) (e : Expr)
  | change (op : Arithmetic) (p : Place) (e : Expr)
  /-- A step by a number, whose value is the one before or after it. -/
  | step (isBefore : Bool) (amount : Float) (p : Place)
  | arithmetic (op : Arithmetic) (a b : Expr)
  | negative (e : Expr)
  | positive (e : Expr)
  | no (e : Expr)
  | joined (a b : Expr)
  | compare (op : Comparison) (a b : Expr)
  | matched (isNegated : Bool) (a b : Expr)
  | member (index : List Expr) (table : Bytes)
  | both (a b : Expr)
  | either (a b : Expr)
  | choice (c a b : Expr)
  | call (name : Bytes) (args : List Expr)
  | builtIn (f : BuiltIn) (args : List Expr)
  | line (origin : Origin) (source : Option Expr) (target : Option Place)

inductive Place where
  | named (name : Bytes)
  | field (e : Expr)
  | element (table : Bytes) (index : List Expr)

end

inductive Redirect where
  | fresh
  | added
  | command
  deriving Repr, DecidableEq

inductive Stmt where
  | expr (e : Expr)
  | print (args : List Expr) (target : Option (Redirect × Expr))
  | printf (args : List Expr) (target : Option (Redirect × Expr))
  | branch (c : Expr) (a : Stmt) (b : Option Stmt)
  | loop (c : Expr) (body : Stmt)
  | loopAfter (body : Stmt) (c : Expr)
  | count (start : Option Stmt) (c : Option Expr) (step : Option Stmt) (body : Stmt)
  | each (name table : Bytes) (body : Stmt)
  | block (list : List Stmt)
  | next
  | nextFile
  | exit (e : Option Expr)
  | giveBack (e : Option Expr)
  | leave
  | again
  | delete (table : Bytes) (index : Option (List Expr))

inductive Pattern where
  | always
  | single (e : Expr)
  | range (a b : Expr)

structure Rule where
  pattern : Pattern
  action : Stmt

structure Function where
  name : Bytes
  parameters : List Bytes
  body : Stmt

structure Script where
  starts : List Stmt
  rules : List Rule
  ends : List Stmt
  functions : List Function

inductive Problem where
  | unexpected (token : Bytes)
  | missing (mark : Char) (token : Bytes)
  | extra (mark : Char)
  | openText (bs : Bytes)
  | openPattern (bs : Bytes)
  | strange (c : Char)
  | badPattern (reason : String) (bs : Bytes)
  | outside (word : String)
  | misplaced (word : String)
  | undefined (name : Bytes)
  | tooMany (name : Bytes)
  | wrongCount (name : Bytes)
  | ownName
  | twice (name : Bytes)
  | redefined (name : Bytes)
  | misused (kind : String) (name : Bytes)
  | noArguments

def Problem.message (p : Problem) (line : Nat) : Bytes :=
  let told (bs : Bytes) : Bytes := ofText ("line " ++ toString line ++ ": ") ++ bs
  match p with
  | unexpected token => told (ofText "syntax error at or near " ++ token)
  | missing mark token =>
    told (ofText ("missing " ++ String.singleton mark ++ " near ") ++ token)
  | extra mark => told (ofText ("extra '" ++ String.singleton mark ++ "'"))
  | openText bs => told (ofText "runaway string constant \"" ++ bs.take 10 ++ ofText " ...")
  | openPattern bs =>
    told (ofText "runaway regular expression /" ++ bs.take 10 ++ ofText " ...")
  | strange c =>
    ofText (toString line ++ ": unexpected character '" ++ String.singleton c ++ "'")
  | badPattern reason bs =>
    told (ofText ("regular expression compile failed (" ++ reason ++ ")\n") ++ bs)
  | outside word =>
    told (ofText (if word = "return" then "return outside function body"
      else word ++ " statement outside of loop"))
  | misplaced word => told (ofText ("improper use of " ++ word))
  | undefined name => told (ofText "function " ++ name ++ ofText " never defined")
  | tooMany name => told (ofText "too many arguments in call to " ++ name)
  | wrongCount name => told (ofText "wrong number of arguments in call to " ++ name)
  | ownName => told (ofText "function parameter cannot be the function")
  | twice name => told (name ++ ofText " is duplicated in argument list")
  | redefined name => told (ofText "redefinition of " ++ name)
  | misused kind name => told (ofText ("illegal reference to " ++ kind ++ " ") ++ name)
  | noArguments => told (ofText "no arguments in call to printf")

end LspRelay.Rows
