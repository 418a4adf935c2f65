import RealMode.Text.CharacterClass

/-!
# Log filters

Directives separated by commas. A directive is a level, a target, a target and a level with `=`
between them, or a target with a span in brackets, whose fields stand in braces; a level may follow
the bracket. Nothing is logged, so only the form is checked. White space around a directive is
ignored, except beside a level.
-/

namespace RealMode.LogFilter

inductive Defect where
  | directive
  | level
deriving DecidableEq, Inhabited

def levelMessage : String :=
  "error parsing level filter: expected one of \"off\", \"error\", \"warn\", \"info\", " ++
    "\"debug\", \"trace\", or a number 0-5"

/-- What is wrong, from the outermost cause to the innermost. -/
def Defect.causes : Defect → List String
  | directive => ["invalid filter directive"]
  | level => [levelMessage, levelMessage]

def levelNames : List String := ["off", "error", "warn", "info", "debug", "trace"]

def maxLevel : Nat := 5

/-- A level by number, with any zeros and a plus sign in front. -/
def isLevelNumber (text : String) : Bool :=
  let digits := text.toList.dropWhile (· == '+')
  let signs := text.toList.length - digits.length
  signs ≤ 1 && !digits.isEmpty && digits.all Char.isDigit
    && (String.ofList digits).toNat?.any (· ≤ maxLevel)

/-- No text at all is the level that lets everything through. -/
def isLevel (text : String) : Bool :=
  text.isEmpty || isLevelNumber text || levelNames.contains (text.map Char.toLower)

/-- How far a directive has been read. -/
inductive Stage where
  | start
  | target
  | span
  /-- Behind the brace that opens the fields. -/
  | fields
  | field
  /-- Behind the brace that closes the fields. -/
  | listed
  /-- Behind the bracket that closes the span. -/
  | closed
deriving DecidableEq, Inhabited

/-- The characters that a target may begin with. -/
def beginsTarget (c : Char) : Bool := Text.isLetterOrDigit c || c == '-' || c == ':' || c == '_'

private def checkLevel (indented : Bool) (level : List Char) : Except Defect Unit :=
  if !indented && isLevel (String.ofList level) then .ok () else .error .level

/-- Reads on. `indented` tells that white space stood in front of the directive. -/
def readOn (indented : Bool) : Stage → List Char → Except Defect Unit
  | .start, '[' :: rest => readOn indented .span rest
  | .start, c :: rest => if beginsTarget c then readOn indented .target rest else .error .directive
  | .target, [] => .ok ()
  | .target, '=' :: rest => checkLevel indented rest
  | .target, '[' :: rest => readOn indented .span rest
  | .target, _ :: rest => readOn indented .target rest
  | .span, ']' :: rest => readOn indented .closed rest
  | .span, '{' :: rest => readOn indented .fields rest
  | .span, _ :: rest => readOn indented .span rest
  | .fields, '}' :: _ => .error .directive
  | .fields, _ :: rest => readOn indented .field rest
  | .field, '}' :: rest => readOn indented .listed rest
  | .field, _ :: rest => readOn indented .field rest
  | .listed, ']' :: rest => readOn indented .closed rest
  | .closed, '=' :: rest => checkLevel indented rest
  | .closed, rest => if rest.all Text.isBlank then .ok () else .error .directive
  | _, _ => .error .directive

def checkDirective (directive : List Char) : Except Defect Unit :=
  let trimmed := directive.dropWhile Text.isBlank
  readOn (trimmed.length < directive.length) .start trimmed

/-- Empty directives are skipped, and the first one that is wrong decides. -/
def check (filter : String) : Except Defect Unit :=
  ((filter.toList.splitOn ',').filter (!·.isEmpty)).forM checkDirective

end RealMode.LogFilter
