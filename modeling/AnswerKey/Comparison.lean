import AnswerKey.Act
import AnswerKey.Decimal.Integer
import AnswerKey.Host

namespace AnswerKey

/-!
Comparing programs with the helpers of a sandbox.  A helper is loaded once for each session of a
sandbox.  Two programs are the same when their canonical forms are equal, or when their tokens are.
-/

/-- What comes of comparing a submission with the expected program and its alternatives. -/
structure Comparison where
  isMatch : Bool
  /-- The alternative that matched; nothing when the expected program did. -/
  alternative : Option String := none
  /-- Whether the comparison could be made at all. -/
  isAvailable : Bool := true
  error : Json := .null

/-- The sandbox and the session that a helper was last loaded for. -/
structure Load where
  handle : Nat
  session : Int
  deriving DecidableEq, Repr

/-- For each helper, what it was last loaded for. -/
structure Loads where
  canonical : Option Load
  tokenizer : Option Load
  deriving DecidableEq, Repr

namespace Loads

open Worker (Helper)

/-- Nothing is known to be loaded. -/
def none : Loads := ⟨.none, .none⟩

def get (loads : Loads) : Helper → Option Load
  | .canonical => loads.canonical
  | .tokenizer => loads.tokenizer

def set (loads : Loads) (helper : Helper) (load : Option Load) : Loads :=
  match helper with
  | .canonical => { loads with canonical := load }
  | .tokenizer => { loads with tokenizer := load }

@[simp] theorem get_none (helper : Helper) : none.get helper = .none := by
  cases helper <;> rfl

@[simp] theorem get_set_self (loads : Loads) (helper : Helper) (load : Option Load) :
    (loads.set helper load).get helper = load := by
  cases helper <;> rfl

theorem get_set_of_ne (loads : Loads) {helper other : Helper} (load : Option Load)
    (different : other ≠ helper) : (loads.set helper load).get other = loads.get other := by
  cases helper <;> cases other <;> simp_all [get, set]

end Loads

/-- A host and what is known about the helpers in its sandboxes. -/
structure Bench where
  host : Host
  loads : Loads

namespace Bench

open Worker (Helper)

/-- Whether a helper is loaded in the session that a sandbox is in. -/
def isLoaded (bench : Bench) (helper : Helper) (handle : Nat) : Bool :=
  bench.loads.get helper == some ⟨handle, bench.host.session handle⟩

/-- Have a sandbox do an errand. -/
def perform (handle : Nat) (errand : Errand) : Act Bench Json :=
  .zoom Bench.host (fun host bench => { bench with host })
    (.ofStep fun host => host.perform handle errand)

/-- Load a helper unless the session has it.  Waiting comes first, for a pending restart begins another
session. -/
def ensureLoaded (helper : Helper) (handle : Nat) : Act Bench Unit := do
  let _ ← perform handle .waitReady
  if !(← get).isLoaded helper handle then
    let _ ← perform handle (.load (.str helper.name) (.str helper.source))
    modify fun bench =>
      { bench with loads := bench.loads.set helper (some ⟨handle, bench.host.session handle⟩) }

/-- Know nothing about a helper any more. -/
def forget (helper : Helper) : Act Bench Unit :=
  modify fun bench => { bench with loads := bench.loads.set helper none }

/-! ### Canonical forms -/

/-- The options of a canonical form as they are handed to the helper. -/
def optionFields (options : Snippet.Canonical.Options) : Json :=
  .obj [("renameLocals", .bool options.renameLocals),
    ("normalizeSlices", .bool options.normalizeSlices),
    ("ignoreDocstrings", .bool options.ignoreDocstrings)]

/-- The canonical form of a program; nothing if it cannot be parsed. -/
def canonicalForm (handle : Nat) (code : String) (options : Snippet.Canonical.Options) :
    Act Bench (Option String) := do
  ensureLoaded .canonical handle
  let result ← perform handle
    (.call (.str "normalize_code") [.str code, optionFields options, .str "auto"])
  pure (if result.isNull then none else some result.text)

/-- The first alternative whose form is the given one. -/
def firstEqual {α : Type} [BEq α] (form : String → Act Bench (Option α)) (wanted : α) :
    List String → Act Bench (Option String)
  | [] => pure none
  | alternative :: rest => do
      if (← form alternative) == some wanted then pure (some alternative)
      else firstEqual form wanted rest

/-- Compare the form of a submission with those of the expected program and the alternatives. -/
def compareForms {α : Type} [BEq α] (form : String → Act Bench (Option α)) (wanted : α)
    (expected : String) (alternatives : List String) : Act Bench Comparison := do
  if (← form expected) == some wanted then pure { isMatch := true }
  else
    let found ← firstEqual form wanted alternatives
    pure { isMatch := found.isSome, alternative := found }

/-- What is said when a comparison fails without a word. -/
def standardFailure : String := "AST comparison failed"

/-- Compare canonical forms.  Faults of the sandbox make the comparison unavailable. -/
def compareTrees (handle : Nat) (submission expected : String) (alternatives : List String)
    (options : Snippet.Canonical.Options) : Act Bench Comparison :=
  let form (code : String) := canonicalForm handle code options
  tryCatch
    (do
      match ← form submission with
      | none => pure { isMatch := false }
      | some wanted => compareForms form wanted expected alternatives)
    fun exception =>
      if exception.isSandboxError then
        let error := if exception.text.isEmpty then standardFailure else exception.text
        pure { isMatch := false, isAvailable := false, error := .str error }
      else throw exception

/-! ### Tokens -/

/-- The members of a value that can be gone through. -/
def members (value : Json) : Except Exception (List Json) :=
  match value with
  | .arr items => .ok items
  | .obj fields => .ok (fields.map fun (key, _) => .str key)
  | .str text => .ok (text.toList.map fun c => .str (.ofList [c]))
  | _ => .error (.typeError ("'" ++ value.typeName ++ "' object is not iterable"))

/-- The two members of a value. -/
def pair (value : Json) : Except Exception (Json × Json) :=
  match members value with
  | .error _ => .error (.typeError ("cannot unpack non-iterable " ++ value.typeName ++ " object"))
  | .ok [first, second] => .ok (first, second)
  | .ok (_ :: _ :: _ :: _) => .error (.valueError "too many values to unpack (expected 2)")
  | .ok few =>
      .error (.valueError
        ("not enough values to unpack (expected 2, got " ++ Decimal.ofInt few.length ++ ")"))

/-- The integer that a value stands for; fractions are cut off. -/
def integerOf (value : Json) : Except Exception Int :=
  match value with
  | .int n => .ok n
  | .bool b => .ok (if b then 1 else 0)
  | .float x =>
      if x.isNan then .error (.valueError "cannot convert float NaN to integer")
      else if x.isInfinite then
        .error (.ofText "OverflowError" "cannot convert float infinity to integer")
      else
        let (numerator, denominator) := x.ratio
        let whole : Int := (numerator / denominator : Nat)
        .ok (if x.isNegative then -whole else whole)
  | .str text =>
      match Decimal.integerOfText text.toList with
      | .ok n => .ok n
      | .error (.tooLong digits) => .error (.valueError (Json.FaultKind.longInteger digits).text)
      | .error .malformed =>
          .error (.valueError
            ("invalid literal for int() with base 10: " ++ Text.Quoted.encode text))
  | _ =>
      .error (.typeError
        ("int() argument must be a string, a bytes-like object or a real number, not '" ++
          value.typeName ++ "'"))

/-- A token of a value: a number and a text. -/
def tokenOf (value : Json) : Except Exception (Int × String) := do
  let (kind, text) ← pair value
  pure (← integerOf kind, text.text)

/-- The tokens of a program; nothing if it has none to compare. -/
def tokens (handle : Nat) (code : String) : Act Bench (Option (List (Int × String))) := do
  ensureLoaded .tokenizer handle
  let result ← perform handle (.call (.str "tokenize_code") [.str code])
  if result.isNull then pure none
  else
    match (members result).bind (·.mapM tokenOf) with
    | .ok tokens => pure (some tokens)
    | .error exception => throw exception

/-- Compare tokens.  A submission without tokens is never right. -/
def compareTokens (handle : Nat) (submission expected : String) (alternatives : List String) :
    Act Bench Comparison := do
  match ← tokens handle submission with
  | none => pure { isMatch := false }
  | some [] => pure { isMatch := false }
  | some wanted => compareForms (tokens handle) wanted expected alternatives

end Bench
end AnswerKey
