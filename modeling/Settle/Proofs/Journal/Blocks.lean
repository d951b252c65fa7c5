import Settle.Journal.Basic

/-!
# Blocks in a program

A program binds variables, frees them, and enters and leaves blocks. What it does to a journal is a
list of acts, one after the other: `Step.acts` says which they are and where a failure cuts them
short. A block is left all the same. Each time a block is entered it saves what its keys stand for,
on top of what the blocks around it have saved.

* The acts of a program are well nested (`nested_actsAll`), so each block that is entered is left
  again (`Nested.exists_leave`).
* Well-nested acts keep the blocks that are open (`blocks_perform`), so a block that is left finds
  what it saved itself (`bound_perform_block`), whatever blocks were entered and left inside it.
* In all, the acts of a program come to what it means: `bound_perform_actsAll` says that they leave
  the variables, and fail or go through, as `Variables.runAll` has it, which knows no open blocks.

Main statement: `block_restores`. Wherever a program enters a block, whatever the body then does to
the variables and whether or not it goes through, the keys of the block stand for what they stood
for right before it as soon as it is left, and every other key for what the body left.
-/

namespace Settle

namespace Variables

/-! ### Acts -/

/-- A change of the variables. -/
inductive Change where
  | bind (fields : List (String × Value))
  | unbind (keys : List String)
  | clear

/-- One thing that a program does to a journal. -/
inductive Act where
  | change (c : Change)
  | enter (fields : List (String × Value))
  | leave

mutual

/-- The acts of a step, and whether it goes through. -/
def Step.acts : Step → List Act × Bool
  | .bind fields => ([.change (.bind fields)], true)
  | .unbind keys => ([.change (.unbind keys)], true)
  | .clear => ([.change .clear], true)
  | .fail => ([], false)
  | .guarded body => ((actsAll body).1, true)
  | .block fields body =>
    (.enter fields :: ((actsAll body).1 ++ [.leave]), (actsAll body).2)

/-- The acts of steps in turn, up to the first that fails, and whether all go through. -/
def actsAll : List Step → List Act × Bool
  | [] => ([], true)
  | s :: rest =>
    match s.acts with
    | (acts, true) => (acts ++ (actsAll rest).1, (actsAll rest).2)
    | (acts, false) => (acts, false)

end

/-- Every block that is entered is left, and blocks lie side by side or one in the other. -/
inductive Nested : List Act → Prop
  | nil : Nested []
  | change {rest : List Act} (c : Change) (after : Nested rest) : Nested (.change c :: rest)
  | block {body rest : List Act} (fields : List (String × Value)) (inside : Nested body)
      (after : Nested rest) : Nested (.enter fields :: (body ++ .leave :: rest))

theorem Nested.append {acts more : List Act} (h : Nested acts) (hmore : Nested more) :
    Nested (acts ++ more) := by
  induction h with
  | nil => exact hmore
  | change c _ ih => exact .change c ih
  | block fields inside _ _ ih =>
    rw [List.cons_append, List.append_assoc]
    exact .block fields inside ih

mutual

theorem Step.nested_acts (s : Step) : Nested s.acts.1 := by
  cases s with
  | bind fields => exact .change _ .nil
  | unbind keys => exact .change _ .nil
  | clear => exact .change _ .nil
  | fail => exact .nil
  | guarded body => exact nested_actsAll body
  | block fields body => exact .block fields (nested_actsAll body) .nil

/-- **The acts of a program are well nested**, whether or not it goes through. -/
theorem nested_actsAll (program : List Step) : Nested (actsAll program).1 := by
  cases program with
  | nil => exact .nil
  | cons s rest =>
    have hs : Nested s.acts.1 := s.nested_acts
    have hrest : Nested (actsAll rest).1 := nested_actsAll rest
    rw [actsAll]
    split
    · next e =>
      rw [e] at hs
      exact hs.append hrest
    · next e =>
      rw [e] at hs
      exact hs

end

/-- Where well-nested acts enter a block, they go on to leave it. -/
theorem Nested.exists_leave {before rest : List Act} {fields : List (String × Value)}
    (h : Nested (before ++ .enter fields :: rest)) :
    ∃ body after, rest = body ++ .leave :: after ∧ Nested body := by
  generalize e : before ++ .enter fields :: rest = acts at h
  induction h generalizing before rest with
  | nil => exact absurd e (List.append_ne_nil_of_right_ne_nil _ (List.cons_ne_nil _ _))
  | change c _ ih =>
    rcases List.append_eq_cons_iff.mp e with ⟨-, hhead⟩ | ⟨before, -, htail⟩
    · cases hhead
    · exact ih htail.symm
  | @block body after fields' inside _ ihInside ihAfter =>
    rcases List.append_eq_cons_iff.mp e with ⟨-, hhead⟩ | ⟨before, -, htail⟩
    · -- it is this block
      cases hhead
      exact ⟨body, after, rfl, inside⟩
    rcases List.append_eq_append_iff.mp htail with ⟨skipped, -, hrest⟩ | ⟨inner, hbody, hrest⟩
    · -- it is entered after this block was left
      rcases List.cons_eq_append_iff.mp hrest with ⟨-, hhead⟩ | ⟨_, -, hafter⟩
      · cases hhead
      · exact ihAfter hafter.symm
    · -- it is entered inside this block, and left there
      rcases List.cons_eq_append_iff.mp hrest with ⟨-, hhead⟩ | ⟨_, hinner, hleft⟩
      · cases hhead
      · rw [hinner] at hbody
        obtain ⟨within, left, hsplit, hwithin⟩ := ihInside hbody.symm
        refine ⟨within, left ++ .leave :: after, ?_, hwithin⟩
        rw [hleft, hsplit, List.append_assoc, List.cons_append]

end Variables

namespace Journal

open Variables

/-! ### Acts on a journal -/

/-- Change the variables. -/
def change (j : Journal) : Change → Journal
  | .bind fields => j.bind fields
  | .unbind keys => j.unbind keys
  | .clear => j.clear

/-- Do what one act says. -/
def act (j : Journal) : Act → Journal
  | .change c => j.change c
  | .enter fields => j.enter fields
  | .leave => j.leave

/-- Do what acts say, one after the other. -/
def perform (j : Journal) (acts : List Act) : Journal := acts.foldl act j

@[simp] theorem perform_nil (j : Journal) : j.perform [] = j := rfl

@[simp] theorem perform_cons (j : Journal) (a : Act) (acts : List Act) :
    j.perform (a :: acts) = (j.act a).perform acts := rfl

@[simp] theorem perform_append (j : Journal) (acts more : List Act) :
    j.perform (acts ++ more) = (j.perform acts).perform more := List.foldl_append

/-- Changes do not touch the blocks that are open. -/
@[simp] theorem blocks_change (j : Journal) (c : Change) : (j.change c).blocks = j.blocks := by
  cases c <;> rfl

theorem blocks_leave {j : Journal} {s : Saved} {rest : List Saved} (h : j.blocks = s :: rest) :
    j.leave.blocks = rest := by
  rw [leave, h]

/-- Leaving a block gives back what was saved last. -/
theorem bound_leave {j : Journal} {s : Saved} {rest : List Saved} (h : j.blocks = s :: rest) :
    j.leave.bound = j.bound.restore s := by
  rw [leave, h]

/-- **Well-nested acts keep the blocks that are open.** -/
theorem blocks_perform {acts : List Act} (h : Nested acts) (j : Journal) :
    (j.perform acts).blocks = j.blocks := by
  induction h generalizing j with
  | nil => rfl
  | change c _ ih => exact (ih _).trans (j.blocks_change c)
  | @block body rest fields _ _ ihInside ihAfter =>
    -- the body finds on top what the block saved, and so it is there when the block is left
    have hopen : ((j.enter fields).perform body).blocks = j.bound.saved fields :: j.blocks :=
      ihInside (j.enter fields)
    rw [perform_cons, perform_append, perform_cons, ihAfter]
    exact blocks_leave hopen

/-- **Leaving a block gives back what was saved on entering it**, if its body is well nested. -/
theorem bound_perform_block {body : List Act} (h : Nested body) (j : Journal)
    (fields : List (String × Value)) :
    (j.perform (.enter fields :: (body ++ [.leave]))).bound =
      ((j.enter fields).perform body).bound.restore (j.bound.saved fields) := by
  have hopen : ((j.enter fields).perform body).blocks = j.bound.saved fields :: j.blocks :=
    blocks_perform h (j.enter fields)
  rw [perform_cons, perform_append]
  exact bound_leave hopen

/-! ### Programs on a journal -/

mutual

theorem bound_perform_acts (s : Step) (j : Journal) :
    ((j.perform s.acts.1).bound, s.acts.2) = s.run j.bound := by
  cases s with
  | bind fields => rfl
  | unbind keys => rfl
  | clear => rfl
  | fail => rfl
  | guarded body =>
    have hbody := bound_perform_actsAll body j
    rw [Step.run, ← hbody]
    rfl
  | block fields body =>
    have hbody : (((j.enter fields).perform (actsAll body).1).bound, (actsAll body).2) =
        runAll body (j.bound.bind fields) := bound_perform_actsAll body (j.enter fields)
    rw [Step.run, ← hbody, Step.acts, bound_perform_block (nested_actsAll body)]

/-- **The acts of a program leave the variables that it means**, and fail where it fails. -/
theorem bound_perform_actsAll (program : List Step) (j : Journal) :
    ((j.perform (actsAll program).1).bound, (actsAll program).2) = runAll program j.bound := by
  cases program with
  | nil => rfl
  | cons s rest =>
    have hs := bound_perform_acts s j
    rw [actsAll, runAll, ← hs]
    split
    · next acts e =>
      rw [e, perform_append]
      exact bound_perform_actsAll rest (j.perform acts)
    · next acts e => rw [e]

end

/-! ### Blocks -/

/-- **A block gives back what it took.** Wherever a program enters a block, it leaves it again, also
if a failure ends the body. Right after that the keys of the block stand for what they stood for, or
are as absent as they were, right before it was entered; every other key is as the body left it. -/
theorem block_restores {program : List Step} {before rest : List Act}
    {fields : List (String × Value)}
    (h : (actsAll program).1 = before ++ .enter fields :: rest) (j : Journal) :
    ∃ body after, rest = body ++ .leave :: after ∧ Nested body ∧
      ∀ k, Ledger.get? (j.perform (before ++ .enter fields :: (body ++ [.leave]))).bound k =
        if k ∈ fields.map Prod.fst then Ledger.get? (j.perform before).bound k
        else Ledger.get? (j.perform (before ++ .enter fields :: body)).bound k := by
  have hnested : Nested (before ++ .enter fields :: rest) := h ▸ nested_actsAll program
  obtain ⟨body, after, hsplit, hbody⟩ := hnested.exists_leave
  refine ⟨body, after, hsplit, hbody, ?_⟩
  intro k
  rw [perform_append, bound_perform_block hbody, perform_append, perform_cons]
  exact get?_restore _ _ _ _

/-- A block that takes `a` and `b` lies in one that takes `a`, and frees everything before it fails.
After it `a` is what the block around it made it, and `b` is absent. -/
theorem block_restores_cleared :
    (actsAll [.block [("a", .int 1)] [.block [("a", .int 2), ("b", .int 3)] [.clear, .fail]]]).1 =
      [.enter [("a", .int 1)]] ++ .enter [("a", .int 2), ("b", .int 3)] ::
        [.change .clear, .leave, .leave] ∧
    ∃ body after, [.change .clear, .leave, .leave] = body ++ .leave :: after ∧ Nested body ∧
      Ledger.get? (perform {} ([.enter [("a", .int 1)]] ++
        .enter [("a", .int 2), ("b", .int 3)] :: (body ++ [.leave]))).bound "a" = some (.int 1) ∧
      Ledger.get? (perform {} ([.enter [("a", .int 1)]] ++
        .enter [("a", .int 2), ("b", .int 3)] :: (body ++ [.leave]))).bound "b" = none := by
  have h : (actsAll [.block [("a", .int 1)]
      [.block [("a", .int 2), ("b", .int 3)] [.clear, .fail]]]).1 =
      [.enter [("a", .int 1)]] ++ .enter [("a", .int 2), ("b", .int 3)] ::
        [.change .clear, .leave, .leave] := rfl
  obtain ⟨body, after, hsplit, hbody, hkeys⟩ := block_restores h {}
  exact ⟨h, body, after, hsplit, hbody, hkeys "a", hkeys "b"⟩

end Journal

end Settle
