import ComfyCraft.Housing.Shelf

/-! A move on the shelf exchanges two squares, in memory and in the rows, whatever is in them; and the stacks
the window shows, one for each kind of crate. -/

namespace ComfyCraft

open List Function AList Prod Equiv

variable {F : Type} {sv : Server F}

namespace HouseMgr

/-- A square that a crate can be in. -/
def IsSquare (slot : UInt32) : Prop := slot ≠ 0 ∧ slot ≤ HOUSE_STORAGE_MAX

instance (slot : UInt32) : Decidable (IsSquare slot) := inferInstanceAs (Decidable (_ ∧ _))

def exchanged (accountId from_ to_ : UInt32) : Equiv.Perm Square := Equiv.swap (accountId, from_) (accountId, to_)

variable {accountId from_ to_ moving : UInt32} {s s' : HouseMgr sv} {p : Visitor F} {out : List HouseStorageStack}

/-- What an accepted move is: of a square onto itself, which does nothing, or of a crate to another square. -/
inductive Moved (s : HouseMgr sv) (accountId from_ to_ : UInt32) (s' : HouseMgr sv) : Prop
  | same (heq : from_ = to_) (hs : s' = s)
  | other (hne : from_ ≠ to_) (moving : UInt32) (hmoving : s.shelves (accountId, from_) = some moving)
      (hqueued : s'.db.storageOps = s.db.storageOps ++ [(true, moveStmts accountId from_ to_ moving (s.shelves (accountId, to_)))])
      (hshelves : s'.shelves = fun k => s.shelves (exchanged accountId from_ to_ k))

end HouseMgr

namespace HouseSample

open HouseMgr

def shelved : HouseMgr server := { mgr with storage := AList.singleton 1 (AList.singleton 1 5) }

end HouseSample

end ComfyCraft
