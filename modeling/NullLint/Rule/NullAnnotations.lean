import NullLint.Rule.Basic
import NullLint.Text.Letters

set_option autoImplicit false
set_option relaxedAutoImplicit false

/-!
# The rule about null annotations

A declaration whose values may be null has to say with an annotation whether they are; a
declaration whose values are never null must not carry such an annotation. The names of the two
annotations can be configured.

## Main definitions

* `NullAnnotations.Names` — the simple names of the two annotations;
  `NullAnnotations.Names.configure` changes them as the properties say.
* `NullAnnotations.subjects` — the declarations that are judged when a node is visited.
* `NullAnnotations.Classifier.judge`, `NullAnnotations.Classifier.classify` — what is wrong with
  one declaration, and with all subjects of a node.
* `NullAnnotations.rule` — the rule.

## Design

Fields, results of methods, constructors and parameters are judged: a field when its node is
visited, a parameter when the node of its method or constructor is. A constructor, a constant and
a declaration of a type without null are exempt, and carry an annotation in vain; all others need
one.
-/

namespace NullLint.NullAnnotations

open Syntax Tree

/-- The simple names of the annotations for values that are never null and for values that may be
null. -/
structure Names where
  nonNull : String := "NonNull"
  nullable : String := "Nullable"
  deriving DecidableEq, Repr

/-- What can be wrong with a declaration: it needs an annotation and has none, or the reverse. -/
inductive Flaw where
  | missing
  | redundant
  deriving DecidableEq, Repr

/-- The key under which a flaw is reported. -/
def Flaw.key : Flaw → String
  | .missing => "null.annotations.missing"
  | .redundant => "null.annotations.redundant"

/-- A flaw of a declaration, the position of its first token and its name. -/
structure Finding where
  position : Position
  flaw : Flaw
  subject : String
  deriving DecidableEq, Repr

/-- What the judgement depends on: the names of the annotations and the types without null. -/
structure Classifier where
  names : Names := {}
  neverNull : TypeSet := TypeSet.neverNull

section

variable {t : Tree}

/-- The declarations that are judged when a node is visited: a field itself; a method or a
constructor and its parameters. The parameters of a native method are left out, since there is no
body to which their annotations could be held. -/
def subjects (n : t.Node) : List t.Node :=
  match kind n with
  | .variableDef => if isClassField n then [n] else []
  | .methodDef | .constructorDef =>
    n :: if (declaration n).hasModifier .isNative then [] else parameters n
  | _ => []

/-- Whether a node declares a constant: a field that is both static and final. -/
def isConstant (n : t.Node) : Bool :=
  isClassField n && (declaration n).hasModifier .isStatic && (declaration n).hasModifier .isFinal

/-- A node that lacks a part. -/
def lacks (n : t.Node) (part : MissingPart) : Malformed :=
  ⟨kind n, (declaration n).position, part⟩

namespace Classifier

variable (c : Classifier)

/-- Whether a declaration carries one of the two annotations. -/
def isAnnotated (n : t.Node) : Bool :=
  (declaration n).isAnnotatedWith c.names.nonNull ||
    (declaration n).isAnnotatedWith c.names.nullable

/-- Whether a declaration needs no annotation. Where the type decides it has to be known. -/
def isExempt (n : t.Node) : Except Malformed Bool :=
  if isConstant n || kind n == .constructorDef then .ok true
  else
    match (declaration n).type with
    | none => .error (lacks n .type)
    | some type => .ok (c.neverNull.holds type.tag)

/-- The flaw of a declaration, by whether it is exempt and whether it is annotated. -/
def flaw? (exempt annotated : Bool) : Option Flaw :=
  match exempt, annotated with
  | false, false => some .missing
  | true, true => some .redundant
  | _, _ => none

/-- What is wrong with a declaration. -/
def judge (n : t.Node) : Except Malformed (Option Finding) :=
  match (declaration n).identifier with
  | none => .error (lacks n .identifier)
  | some identifier =>
    (c.isExempt n).map fun exempt =>
      (flaw? exempt (c.isAnnotated n)).map fun flaw =>
        ⟨(declaration n).firstPosition, flaw, identifier.text⟩

/-- What is wrong with the subjects of a node, in their order. -/
def classify (n : t.Node) : Except Malformed (List Finding) :=
  ((subjects n).mapM c.judge).map fun found => found.filterMap id

/-- What is found at a node before a subject turns out to lack a part. -/
def foundEarly (n : t.Node) : List Finding :=
  (((subjects n).map c.judge).takeWhile (·.isOk)).filterMap fun found => found.toOption.join

end Classifier

end

/-- The words for a finding. -/
def Names.message (names : Names) (f : Finding) : String :=
  match f.flaw with
  | .missing =>
    "Missing @" ++ names.nonNull ++ " or @" ++ names.nullable ++ " annotation on '" ++ f.subject ++
      "'"
  | .redundant =>
    "Redundant @" ++ names.nonNull ++ "/@" ++ names.nullable ++ " annotation on '" ++ f.subject ++
      "'"

/-- A finding as it is reported. -/
def Names.diagnostic (names : Names) (f : Finding) : Diagnostic where
  position := f.position
  key := f.flaw.key
  message := names.message f
  subject := f.subject

/-- The event that tells of a finding. -/
def Finding.event (f : Finding) : Log.Event where
  level := .trace
  source := "annolint::rules::null_annotations"
  message := "null annotation finding"
  details := [("subject", Text.quoted f.subject), ("line", toString f.position.line.toNat),
    ("column", toString f.position.column.toNat), ("key", Text.quoted f.flaw.key)]

/-- How the rule looks at a node. -/
def visitor (c : Classifier) : Visitor := fun _ n =>
  { result := (c.classify n).map fun fs => fs.map c.names.diagnostic
    events := (c.foundEarly n).map Finding.event }

/-- Whether an identifier can start with a character. -/
def startsIdentifier (c : Char) : Bool :=
  Text.isLetter c || c == '_' || c == '$'

/-- Whether an identifier can go on with a character. -/
def continuesIdentifier (c : Char) : Bool :=
  Text.isLetterOrNumber c || c == '_' || c == '$'

/-- The name of an annotation as it is given in the property `key`: an identifier, perhaps with
blanks around it and at-signs before it. -/
def annotationName (key value : String) : Except ConfigFault String :=
  match (Text.trimChars value.toList).dropWhile (· == '@') with
  | [] => .error (.emptyName key)
  | c :: cs =>
    if startsIdentifier c && cs.all continuesIdentifier then .ok (String.ofList (c :: cs))
    else .error (.notSimple key value)

/-- What the rule is called and what it is about. -/
def info : RuleInfo where
  id := "NULL_ANNOTATIONS"
  name := "Null annotations"
  description :=
    "Declarations that can hold null need @NonNull or @Nullable; others must not carry them"

/-- Changes the name that a property is about. -/
def Names.set (names : Names) (key value : String) : Except ConfigFault Names :=
  if key = "nonNullAnnotation" then
    (annotationName key value).map fun name => { names with nonNull := name }
  else if key = "nullableAnnotation" then
    (annotationName key value).map fun name => { names with nullable := name }
  else .error (.unknownProperty info.id key)

/-- Changes the names as the properties say; a name that is not given stays as it is. -/
def Names.configure (names : Names) : Properties → Except ConfigFault Names
  | [] => .ok names
  | (key, value) :: ps => (names.set key value).bind fun names => names.configure ps

/-- The kinds of nodes the rule is shown. -/
def tokens : List Kind := [.variableDef, .methodDef, .constructorDef]

end NullLint.NullAnnotations

namespace NullLint

/-- The rule about null annotations. -/
def NullAnnotations.rule : Rule where
  info := NullAnnotations.info
  defaultTokens := NullAnnotations.tokens
  acceptableTokens := NullAnnotations.tokens
  configure := fun ps =>
    (NullAnnotations.Names.configure {} ps).map fun names =>
      NullAnnotations.visitor { names := names }

end NullLint
