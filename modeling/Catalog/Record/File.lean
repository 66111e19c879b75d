import Catalog.Record.Basic

/-!
# Records in a file

A store that holds its records in a text file, an array of objects with `id` and `document`. A
commit reads the file anew and writes it as a whole, sorted by id.

## Main definitions

* `FileStore` — the path of the file and its text.
* `FileStore.load` — the records in the file.
* `FileStore.store` — the operations of the store.
-/

namespace Catalog

/-- A record file: its path, and its text if it exists. -/
structure FileStore where
  path : String
  content : Option String
deriving DecidableEq, Repr, Inhabited

namespace FileStore

/-- What a transaction wrote, by id; of two writes to one record the later one counts. -/
abbrev Pending := Table Json

/-- The text of a record file. -/
def render (records : List Record) : String := (Json.arr (records.map Record.toJson)).pretty

/-- The records in the order of their ids; records with one id keep their order. -/
def sortById (records : List Record) : List Record := records.mergeSort fun a b => a.id ≤ b.id

/-- A file with records. -/
def ofRecords (path : String) (records : List Record) : FileStore := ⟨path, some (render records)⟩

/-- An existing file. -/
def openFile (path : String) (content : Option String) : Except Error FileStore :=
  if content.isSome then .ok ⟨path, content⟩ else .error (.store (.noFile path))

/-- The records in the file, in the order of their ids. -/
def load (s : FileStore) : Except Error (List Record) :=
  match s.content with
  | none => .error (.io "No such file or directory (os error 2)")
  | some text =>
    match (Json.Layout.list Record.layout).decodeText text with
    | .ok v => .ok (sortById (v.items.map Record.ofDocument))
    | .error d => .error (.store (.unreadable s.path d))

/-- Writes the file as a whole. -/
def save (s : FileStore) (records : List Record) : FileStore :=
  { s with content := some (render records) }

/-- Applies the writes to the records in order, each to the first record with its id. The writes
that found no record are left over. -/
def applyWrites : List Record → Pending → Except Error (List Record × Pending)
  | [], pending => .ok ([], pending)
  | r :: rs, pending =>
    match pending.get? r.id with
    | none => do
      let (rs, left) ← applyWrites rs pending
      return (r :: rs, left)
    | some packages =>
      match r.document with
      | .obj ms => do
        let (rs, left) ← applyWrites rs (pending.filter fun (id, _) => id ≠ r.id)
        return (⟨r.id, .obj (Json.Members.set ms "packages" packages)⟩ :: rs, left)
      | _ => .error (.store (.notObject r.id))

/-- The file after a transaction. -/
def afterCommit (s : FileStore) (pending : Pending) : Except Error FileStore :=
  if pending.isEmpty then .ok s
  else do
    let (records, left) ← applyWrites (← s.load) pending
    match left with
    | [] => return s.save records
    | (id, _) :: _ => throw (.store (.noRecord id))

/-- The operations of the store. -/
def store : RecordStore FileStore Pending where
  select s cursor limit := return window (← s.load) cursor limit
  start _ := .ok []
  write _ pending id packages := .ok (pending.insert id packages)
  commit s pending :=
    match s.afterCommit pending with
    | .ok t => (t, .ok ())
    | .error e => (s, .error e)
  rollback _ _ := .ok ()

end FileStore

end Catalog
