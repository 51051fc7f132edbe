import ComfyCraft.Group.RosterRows

/-! Runs of the groups and the delay threads. Events whose statements may change places with all that is
pending, and that name nobody who is in another group too, leave rows that equal the slots. -/

namespace ComfyCraft

open List Function GroupServer GroupTables GroupStmt.Commutes Rows List.Nodup Runs

namespace GroupServer

variable {n : Nat}

structure Settling (s : GroupServer n) : Prop where
  listed : s.realm.Listed
  settles : s.db.Settles GroupView.act GroupStmt.Commutes s.tables.view s.realm.view

variable {s : GroupServer n}

theorem Settling.step (h : s.Settling) {a : GroupAction n} (hok : s.InOrder a) : (s.step a).Settling := by
  cases a with
  | event e =>
    obtain ⟨halone, hdirect, hqueue⟩ := hok
    unfold GroupServer.step
    split_ifs with hup
    · obtain ⟨hview, hlisted⟩ := GroupRealm.follows_step h.listed halone
      refine ⟨hlisted, ?_⟩
      rw [view_foldl, ← hview]
      exact (h.settles.direct act hdirect).queueAll hup hqueue
    · exact h
  | thread a =>
    refine ⟨h.listed, ?_⟩
    unfold GroupServer.step
    rw [view_foldl]
    exact h.settles.thread act a

end GroupServer

namespace GroupRealm

variable {w : GroupRealm} {other : Nat}

end GroupRealm

namespace GroupServer

variable {n : Nat}

/-- The same, where all events are about one group. -/
def InOrderOf (id : Nat) (s : GroupServer n) : GroupAction n → Prop
  | .event e =>
    e.group = some id ∧ (∀ b ∈ s.db.pendingStatements, Database.Apart GroupStmt.Commutes (s.realm.direct e) b) ∧
      (n ≤ 1 ∨ (s.db.pendingStatements ++ (s.realm.ops e).map Prod.snd).Pairwise (Database.Apart GroupStmt.Commutes))
  | .thread _ => True

instance InOrderOf.decide (id : Nat) (s : GroupServer n) (a : GroupAction n) : Decidable (s.InOrderOf id a) := by
  unfold InOrderOf
  split <;> infer_instance

end GroupServer

/-! Two workers, and none of the players in the world. -/

namespace GroupSample

/-- A worker wakes and takes up to that many operations one after the other. -/
def work {n : Nat} (w : Fin n) (ops : Nat) : List (GroupAction n) :=
  .thread (.wake w) :: (List.replicate ops [.thread (.next w), .thread (.perform w)]).flatten

def start (n : Nat) : GroupServer n := GroupServer.started GroupRealm.start GroupTables.empty n

def calm : List (GroupAction 2) :=
  [.event (.create 1 4 false), .event (.addMember 1 5), .event (.addMember 1 6)] ++ work 0 1 ++ work 1 1 ++
    [.event (.convertToRaid 1), .event (.changeMembersGroup 1 5 3), .event (.setAssistant 1 5 true), .event (.changeLeader 1 5)] ++
    [.thread (.next 1), .thread (.next 0)] ++ work 1 4 ++ [.thread (.perform 0), .event (.removeMember 1 6)] ++ work 0 1

end GroupSample

end ComfyCraft
