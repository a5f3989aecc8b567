import SmsActivate.Lib.Pending
import SmsActivate.Models

set_option autoImplicit false

namespace SmsActivate

open SmsActivate.Lib

abbrev Path := List String

def containsDoubleSlash : List Char → Bool
  | '/' :: '/' :: _ => true
  | _ :: rest => containsDoubleSlash rest
  | [] => false

-- ResourcePath::FromStringView of the vendored client: "//" throws, empty
-- segments at either end are skipped.
def resourcePath (path : String) : Option Path :=
  if containsDoubleSlash path.toList then none
  else some ((componentsSeparatedBy '/' path).filter (fun segment => decide (segment ≠ "")))

-- documentWithPath: throws on the empty string and on a reference whose
-- number of segments is odd. A throw ends the process.
def documentIn (collection : Path) (documentPath : String) : Option Path :=
  if documentPath = "" then none
  else
    match resourcePath documentPath with
    | none => none
    | some segments =>
        if (collection ++ segments).length % 2 = 0 then some (collection ++ segments) else none

theorem document_in_eq (collection : Path) (documentPath : String) (document : Path)
    (resolved : documentIn collection documentPath = some document) :
    ∃ segments, resourcePath documentPath = some segments ∧ document = collection ++ segments := by
  unfold documentIn at resolved
  split at resolved
  · cases resolved
  · cases parsed : resourcePath documentPath with
    | none => simp [parsed] at resolved
    | some segments =>
        simp only [parsed] at resolved
        obtain ⟨_, same⟩ := Option.ite_none_right_eq_some.mp resolved
        exact ⟨segments, rfl, (Option.some.inj same).symm⟩

inductive WriteKind where
  | setData
  | updateData
deriving DecidableEq, Repr

-- What the completion closure of a write does when there is no error.
inductive AckHandler where
  | fetchUserBalance
  | fetchNumberPurchases
  | ignored
deriving DecidableEq, Repr

structure Write where
  serial : Nat
  document : Path
  kind : WriteKind
  dic : Document
  handler : AckHandler
deriving DecidableEq, Repr

inductive ReadKind where
  | document
  | collection
deriving DecidableEq, Repr

structure Read where
  serial : Nat
  kind : ReadKind
  path : Path
deriving DecidableEq, Repr

inductive ReadResult where
  | failed
  | document (data : Option Document)
  | documents (data : List Document)
deriving DecidableEq, Repr

abbrev Store := Table Path Document

-- setData replaces the document. updateData carries the precondition that
-- the document exists, and fails otherwise.
def performWrite (store : Store) (write : Write) : Option Store :=
  match write.kind with
  | .setData => some (tableSet write.document write.dic store)
  | .updateData => (tableGet write.document store).map (fun old => tableSet write.document (tableMerge write.dic old) store)

def inCollection (collection path : Path) : Bool := decide (path ≠ [] ∧ path.dropLast = collection)

def documentsIn (collection : Path) (store : Store) : List Document :=
  (store.filter (fun entry => inCollection collection entry.1)).map Prod.snd

-- What the client sees: the store with its own writes that the back end has
-- not answered. A write that cannot be performed there shows nothing.
def localView (store : Store) (pending : List Write) : Store := settle performWrite store pending

-- The documents of a collection come back in any order, and any read may fail.
def serves (view : Store) (read : Read) : ReadResult → Bool
  | .failed => true
  | .document data => decide (read.kind = .document ∧ data = tableGet read.path view)
  | .documents data => decide (read.kind = .collection) && data.isPerm (documentsIn read.path view)

end SmsActivate
