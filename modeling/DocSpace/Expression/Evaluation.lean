import DocSpace.Expression.Basic
import DocSpace.Expression.Descriptors
import DocSpace.Expression.Operation
import DocSpace.Expression.Scope

set_option autoImplicit false

namespace DocSpace

namespace Meaning

def ofName (s : String) : Evaluated Meaning :=
  match Scope.classes.lookup s, Scope.constants.lookup s with
  | some c, _ => .ok (plain c)
  | none, some type => .ok (constant s type)
  | none, none =>
    if s ∈ Scope.functions then .ok (function s)
    else if s = "__debug__" then .ok (bool true)
    else faulty (.unknownName s)

/-- A negative index counts from the end. -/
def itemAt {α : Type} (container : String) (items : List α) (index : Int) : Evaluated α :=
  let place := if index < 0 then index + items.length else index
  match if place < 0 then none else items[place.toNat]? with
  | some x => .ok x
  | none => faulty (.indexOutOfRange container)

/-- An end of a slice as a number of items from the start. -/
def boundOf (size otherwise : Nat) (m : Meaning) : Evaluated Nat :=
  match m, m.asWhole? with
  | null, _ => .ok otherwise
  | _, some i => .ok (min size (if i < 0 then i + size else i).toNat)
  | _, none => atFault .badSlice

def itemsBetween {α : Type} (items : List α) (start stop step : Meaning) : Evaluated (List α) := do
  let first ← boundOf items.length 0 start
  let last ← boundOf items.length items.length stop
  if step.isNull || step.asWhole? = some 1 then return (items.take last).drop first else unfamiliar

def itemOf {α : Type} (container : String) (items : List α) (index : Meaning) : Evaluated α :=
  match index.asWhole? with
  | some i => itemAt container items i
  | none => atFault (.badIndex container index.typeName)

def argumentsOf : Meaning → List Meaning
  | tuple ms => ms
  | m => [m]

mutual

/-- Name of the class of a value, or of one in it, that cannot be a key. -/
def unhashable? : Meaning → Option String
  | list _ => some "list"
  | set _ => some "set"
  | dict _ => some "dict"
  | slice _ _ _ => some "slice"
  | tuple ms | generic _ ms => anyUnhashable? ms
  | _ => none

def anyUnhashable? : List Meaning → Option String
  | [] => none
  | m :: ms => (unhashable? m).or (anyUnhashable? ms)

end

def checkKey (m : Meaning) : Evaluated Unit :=
  match m.unhashable? with
  | some type => faulty (.unhashable type)
  | none => .ok ()

def entryOf (es : List (Meaning × Meaning)) (key : Meaning) : Evaluated Meaning := do
  checkKey key
  match es.find? fun e => same e.1 key with
  | some (_, m) => return m
  | none => atFault (.missingEntry key.display)

def itemBy (m index : Meaning) : Evaluated Meaning :=
  match m with
  | plain c =>
    if c ∈ Scope.containers then .ok (generic c index.argumentsOf)
    else atFault (.notSubscriptable c.name)
  | generic _ _ | union _ => atFault (.notGeneric m.display)
  | tuple ms => itemOf "tuple" ms index
  | list ms => itemOf "list" ms index
  | text s => do return text (← itemOf "string" s.toList index).toString
  | bytes bs => do return whole (← itemOf "byte" bs index).toNat
  | dict es => entryOf es index
  | m => faulty (.notSubscriptable m.typeName)

def subscript (m index : Meaning) : Evaluated Meaning :=
  match m, index with
  | tuple ms, slice a b c => do return tuple (← itemsBetween ms a b c)
  | list ms, slice a b c => do return list (← itemsBetween ms a b c)
  | bytes bs, slice a b c => do return bytes (← itemsBetween bs a b c)
  | text s, slice a b c => do return text (String.ofList (← itemsBetween s.toList a b c))
  | m, index => m.itemBy index

/-- Items that a value stands for among others. -/
def spread : Meaning → Evaluated (List Meaning)
  | tuple ms | list ms | set ms => .ok ms
  | dict es => .ok (es.map (·.1))
  | text s => .ok (s.toList.map fun c => text c.toString)
  | bytes bs => .ok (bs.map fun b => whole b.toNat)
  | generic c ms => .ok [unpacked (generic c ms)]
  | m => atFault (.notSpreadable m.typeName)

/-- The classes that a class has its names from, itself the first. -/
def lineage (c : ClassType) : List String :=
  if c = .bool then ["bool", "int"]
  else if c.name ∈ Scope.faultClasses then [c.name, "BaseException"]
  else [c.name]

def isInternal (name : String) : Bool := name.startsWith "__" && name.endsWith "__"

def member (m : Meaning) (name : String) : Evaluated Meaning :=
  match m with
  | plain c =>
    match (lineage c).findSome? fun owner =>
        (Scope.descriptorKind? owner name).map fun kind => descriptor kind name owner with
    | some m => .ok m
    | none =>
      if name ∈ ["__name__", "__qualname__"] then .ok (text c.name)
      else if name = "__class__" then .ok (plain .type)
      else if isInternal name then unfamiliar
      else faulty (.noTypeAttribute c.name name)
  | generic c _ | unpacked (generic c _) =>
    if isInternal name || (Scope.descriptorKind? c.name name).isSome then unfamiliar
    else faulty (.noTypeAttribute c.name name)
  | m =>
    if isInternal name || (lineage m.classOf).any fun c => (Scope.descriptorKind? c name).isSome
    then unfamiliar
    else faulty (.noAttribute m.typeName name)

/-- What a class makes of nothing. -/
def blank? : ClassType → Option Meaning
  | .int => some (whole 0)
  | .double => some (double (.finite false 0 0))
  | .bool => some (bool false)
  | .text => some (text "")
  | .bytes => some (bytes [])
  | .tuple => some (tuple [])
  | .list => some (list [])
  | .dict => some (dict [])
  | .null => some null
  | _ => none

def toText : Meaning → String
  | text s => s
  | m => m.display

def construct (c : ClassType) (m : Meaning) : Evaluated Meaning :=
  match c with
  | .type => .ok (plain m.classOf)
  | .text => .ok (text m.toText)
  | .bool => .ok (bool m.truthy)
  | .int => m.asWhole?.elim unfamiliar fun i => .ok (whole i)
  | .tuple => do return tuple (← items)
  | .list => do return list (← items)
  | _ => unfamiliar
where
  items : Evaluated (List Meaning) :=
    match m with
    | tuple _ | list _ | text _ | bytes _ | dict _ => m.spread
    | generic _ _ | set _ => unfamiliar
    | m => faulty (.notIterable m.typeName)

def call (m : Meaning) (arguments : List Meaning) : Evaluated Meaning :=
  match m, arguments with
  | plain c, [] => (blank? c).elim unfamiliar .ok
  | plain c, [m] => construct c m
  | plain _, _ | generic _ _, _ | function _, _ | descriptor _ _ _, _ => unfamiliar
  | m, _ => faulty (.notCallable m.typeName)

/-- A set shows its items in an order of its own. -/
def ofItems (ms : List Meaning) : Evaluated Meaning := do
  ms.forM checkKey
  match ms with
  | m :: ms => if ms.all (same m) then return set [m] else unfamiliar
  | [] => unfamiliar

end Meaning

namespace Expression

mutual

def evaluate : Expression → Evaluated Meaning
  | null => .ok .null
  | bool b => .ok (.bool b)
  | ellipsis => .ok .ellipsis
  | whole n => .ok (.whole n)
  | double d => .ok (.double d)
  | text s => .ok (.text s)
  | bytes bs => .ok (.bytes bs)
  | name s => Meaning.ofName s
  | tuple es => do return .tuple (← evaluateAll es)
  | list es => do return .list (← evaluateAll es)
  | set es => do Meaning.ofItems (← evaluateAll es)
  | dict es => do return .dict (← evaluateEntries [] es)
  | spread _ => Meaning.unfamiliar
  | item e index => do
    let m ← e.evaluate
    m.subscript (← index.evaluate)
  | slice a b c => do
    let start ← a.evaluate
    let stop ← b.evaluate
    return .slice start stop (← c.evaluate)
  | member e n => do (← e.evaluate).member n
  | call e arguments => do
    let m ← e.evaluate
    m.call (← evaluateAll arguments)
  | negation e => do return .bool !(← e.evaluate).truthy
  | signed mark e => do (← e.evaluate).sign mark
  | operation mark l r => do
    let m ← l.evaluate
    m.operate mark (← r.evaluate)
  | comparison mark l r => do
    let m ← l.evaluate
    m.compare mark (← r.evaluate)
  | both l r => do
    let m ← l.evaluate
    if m.truthy then r.evaluate else return m
  | either l r => do
    let m ← l.evaluate
    if m.truthy then return m else r.evaluate
  | choice condition yes no => do
    if (← condition.evaluate).truthy then yes.evaluate else no.evaluate

/-- Values of items, with the items of those that are spread in their places. -/
def evaluateAll : List Expression → Evaluated (List Meaning)
  | [] => .ok []
  | spread e :: es => do
    let ms ← (← e.evaluate).spread
    return ms ++ (← evaluateAll es)
  | e :: es => do
    let m ← e.evaluate
    return m :: (← evaluateAll es)

/-- Entries after those that are there; a key that comes again takes the new value. -/
def evaluateEntries (known : List (Meaning × Meaning)) :
    List (Expression × Expression) → Evaluated (List (Meaning × Meaning))
  | [] => .ok known
  | (key, e) :: es => do
    let k ← key.evaluate
    let m ← e.evaluate
    Meaning.checkKey k
    evaluateEntries (Meaning.insertEntry k m known) es

end

end Expression

end DocSpace
