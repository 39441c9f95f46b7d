import ServerLogin.Yaml.Event

/-!
The fields of a document.  A document for settings is one mapping; its keys are
scalars, and of a value it matters whether it is a scalar.  An alias stands for
the node that carries its anchor.
-/

namespace ServerLogin.Yaml

inductive Value
  | scalar (s : Scalar)
  | collection
deriving DecidableEq, Repr

/-- The fields of a mapping, in order. -/
abbrev Fields := List (String × Value)

/-- An event whose alias is resolved to the number of an anchor. -/
inductive Item
  | alias (id : Nat)
  | scalar (s : Scalar)
  | collectionStart
  | collectionEnd

/-- The anchors seen so far.  An anchor gets as number how many names are in use
before it, also when its name has been used already; of two anchors with one
number the later one counts. -/
structure Anchors where
  numbers : List (String × Nat) := []
  values : List (Nat × Value) := []

def Anchors.add (a : Anchors) (name : Option String) (value : Value) : Anchors :=
  match name with
  | none => a
  | some name =>
    let number := a.numbers.length
    { numbers := (name, number) :: a.numbers.filter (·.1 != name)
      values := (number, value) :: a.values }

/-- Resolve the aliases of a document. -/
def resolve (a : Anchors) : List Event → Except YamlFault (Anchors × List Item)
  | [] => .ok (a, [])
  | .alias name :: rest =>
    match a.numbers.lookup name with
    | none => .error .unknownAnchor
    | some number => (resolve a rest).map fun (a, items) => (a, .alias number :: items)
  | .scalar anchor s :: rest =>
    (resolve (a.add anchor (.scalar s)) rest).map fun (a, items) => (a, .scalar s :: items)
  | .sequenceStart anchor :: rest =>
    (resolve (a.add anchor .collection) rest).map fun (a, items) => (a, .collectionStart :: items)
  | .mappingStart anchor :: rest =>
    (resolve (a.add anchor .collection) rest).map fun (a, items) => (a, .collectionStart :: items)
  | .collectionEnd :: rest => (resolve a rest).map fun (a, items) => (a, .collectionEnd :: items)
  | .documentEnd :: rest => resolve a rest

/-- Read the fields of a mapping, from behind its start to its end.  `depth`
counts the collections that are open inside it, and `key` is the key whose value
comes next. -/
def readFields (a : Anchors) (depth : Nat) (key : Option String) :
    List Item → Except YamlFault Fields
  | [] => .ok []
  | item :: rest =>
    match depth, key with
    | depth + 1, _ =>
      match item with
      | .collectionStart => readFields a (depth + 2) key rest
      | .collectionEnd => readFields a depth key rest
      | _ => readFields a (depth + 1) key rest
    | 0, none =>
      match item with
      | .scalar s => readFields a 0 (some s.text) rest
      | .alias number =>
        match a.values.lookup number with
        | some (.scalar s) => readFields a 0 (some s.text) rest
        | _ => .error .unexpectedKind
      | .collectionStart => .error .unexpectedKind
      | .collectionEnd => .ok []
    | 0, some k =>
      match item with
      | .scalar s => (readFields a 0 none rest).map ((k, .scalar s) :: ·)
      | .alias number =>
        match a.values.lookup number with
        | some value => (readFields a 0 none rest).map ((k, value) :: ·)
        | none => .error .unknownAnchor
      | .collectionStart => (readFields a 1 none rest).map ((k, .collection) :: ·)
      | .collectionEnd => .ok []

/-- The fields of the first node of a document.  An empty document has none. -/
def rootFields (events : List Event) : Except YamlFault Fields := do
  let (anchors, items) ← resolve {} events
  match events with
  | [] => return []
  | .mappingStart _ :: _ => readFields anchors 0 none (items.drop 1)
  | .scalar _ s :: _ =>
    if s.style == .plain && s.text.isEmpty then return [] else throw .unexpectedKind
  | _ => throw .unexpectedKind

def readDocument (text : String) : Except YamlFault Fields := do
  let events ← Event.read text
  if 1 < events.toList.count .documentEnd then throw .severalDocuments
  rootFields (events.toList.filter (· != .documentEnd))

end ServerLogin.Yaml
