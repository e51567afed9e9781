import ImageSelect.Filter.Compiled

/-!
# The cache of compiled filters

Filters are compiled once per text and type and kept, up to a number of
them; the one that was asked for longest ago goes first.  A request without
a type means planes, but has a place of its own in the cache.  Text that
does not compile is not kept.

The look-ups of a kept filter intern their strings in a cache of its own,
which grows from one question to the next.
-/

namespace ImageSelect.Filter

variable [CurrentDirectory]

/-! ## Kept filters -/

/-- A filter that is kept, with the strings that its look-ups have interned. -/
structure Kept extends Filter where
  strings : StringCache := {}

/-- Asks a kept filter about a candidate.  Its look-ups, all with the default
extractor, intern in its own strings and leave those of the session alone. -/
def Kept.ask (kept : Kept) (candidate : Value) : Run (Except EvalError Bool × Kept) := do
  let shared ← Run.exchange kept.strings
  let answer ← ((kept.tree.withSource (.plane .shared)).eval candidate).run
  let strings ← Run.exchange shared
  return (answer, { kept with strings })

/-- What a filter is asked for by. -/
abbrev Key := String × Option ValueType

/-- Kept filters, the one asked for last in front, and the number of requests
that found theirs and that did not. -/
structure Cache where
  entries : List (Key × Kept) := []
  hits : Nat := 0
  misses : Nat := 0

namespace Cache

/-- The most filters that are kept. -/
def capacity : Nat := 256

/-- The number of filters that are kept. -/
def size (cache : Cache) : Nat :=
  cache.entries.length

/-- The filter that is kept under a key. -/
def find? (cache : Cache) (key : Key) : Option Kept :=
  cache.entries.lookup key

/-- The cache after a request that found its filter. -/
def touch (cache : Cache) (key : Key) (kept : Kept) : Cache :=
  { cache with
    entries := (key, kept) :: cache.entries.filter (·.1 ≠ key)
    hits := cache.hits + 1 }

/-- The cache after a request that compiled its filter. -/
def store (cache : Cache) (key : Key) (kept : Kept) : Cache :=
  { cache with
    entries := ((key, kept) :: cache.entries).take capacity
    misses := cache.misses + 1 }

/-- The cache after a request whose text does not compile. -/
def miss (cache : Cache) : Cache :=
  { cache with misses := cache.misses + 1 }

/-- The cache after a kept filter was asked. -/
def renew (cache : Cache) (key : Key) (kept : Kept) : Cache :=
  { cache with
    entries := cache.entries.map fun entry => if entry.1 = key then (key, kept) else entry }

/-- The filter for a text and a type, compiled if it is not kept. -/
def compile (cache : Cache) (text : String) (type : Option ValueType) :
    Run (Except CompileError Kept × Cache) := do
  let key := (text, type)
  match cache.find? key with
  | some kept => return (.ok kept, cache.touch key kept)
  | none =>
    match ← Filter.ofText text (type.getD .plane) none with
    | .ok f =>
      let kept : Kept := { f with }
      return (.ok kept, cache.store key kept)
    | .error why => return (.error why, cache.miss)

end Cache

/-! ## Requests -/

/-- A request: for the form of a filter in messages, or for its verdict on a
candidate. -/
inductive Call where
  | compile (text : String) (type : Option ValueType)
  | evaluate (text : String) (candidate : Value) (type : Option ValueType)

/-- What a request is answered with. -/
inductive Reply where
  | form (shown : String)
  | verdict (passes : Bool)
  deriving Repr, DecidableEq

/-- Why a request is not answered: its text does not compile, or a predicate
cannot look at its candidate. -/
inductive CallError where
  | compile (why : CompileError)
  | eval (why : EvalError)

namespace Call

/-- The key under which the filter of a request is kept.  A verdict that is
asked for without a type is that of a filter for candidates of this one's. -/
def key : Call → Key
  | .compile text type => (text, type)
  | .evaluate text candidate type => (text, some (type.getD candidate.type))

/-- The reply that says what a filter has answered. -/
def reply (answer : Except EvalError Bool) : Except CallError Reply :=
  (answer.map Reply.verdict).mapError CallError.eval

/-- Puts a request to a kept filter. -/
def ask (call : Call) (kept : Kept) : Run (Except CallError Reply × Kept) :=
  match call with
  | .compile _ _ => return (.ok (.form kept.shown), kept)
  | .evaluate _ candidate _ => do
    let (answer, kept) ← kept.ask candidate
    return (reply answer, kept)

/-- Answers a request with a filter that is compiled for it alone. -/
def afresh (call : Call) : Run (Except CallError Reply) := do
  match ← Filter.ofText call.key.1 (call.key.2.getD .plane) none with
  | .error why => return .error (.compile why)
  | .ok f =>
    match call with
    | .compile _ _ => return .ok (.form f.shown)
    | .evaluate _ candidate _ => reply <$> (f.ask candidate).run

end Call

namespace Cache

/-- Answers a request. -/
def serve (cache : Cache) (call : Call) : Run (Except CallError Reply × Cache) := do
  match ← cache.compile call.key.1 call.key.2 with
  | (.error why, cache) => return (.error (.compile why), cache)
  | (.ok kept, cache) =>
    let (reply, kept) ← call.ask kept
    return (reply, cache.renew call.key kept)

/-- The cache after requests have been answered one after the other. -/
def serveAll (cache : Cache) : List Call → Run Cache
  | [] => return cache
  | call :: calls => do
    let (_, cache) ← cache.serve call
    cache.serveAll calls

end Cache

end ImageSelect.Filter
