import Mathlib.Data.List.Forall2
import ShardMerge.Catalog.Memory
import ShardMerge.Sync.Config

/-!
# What computations answer

How to take the runs of this library apart.

* A computation that can fail answers as far as its parts do: `bind_eq_ok_iff` for one part after
  another, and `mapM_eq_ok_iff` for one part for each element of a list.  `bind_eq_error_iff` and
  `mapM_eq_error_iff` say how they fail.
* `World.exec` runs an action in a world, and `World.exec_bind_eq_ok_iff` takes a successful run
  apart.
* `MemoryCatalog.exec` runs an action on a catalog in memory.  `MemoryCatalog.exec_bind` runs one
  action after another, and the lemmas beside it run the actions of which all others are made.
-/

namespace ShardMerge

variable {α β ε : Type}

/-! ## Computations that can fail -/

theorem ok_bind (a : α) (f : α → Except ε β) : (Except.ok a >>= f) = f a := rfl

theorem error_bind (e : ε) (f : α → Except ε β) : (Except.error e >>= f) = .error e := rfl

theorem bind_eq_ok_iff {x : Except ε α} {f : α → Except ε β} {b : β} :
    (x >>= f) = .ok b ↔ ∃ a, x = .ok a ∧ f a = .ok b := by
  cases x with
  | error e => simp [bind, Except.bind]
  | ok a => simp [bind, Except.bind]

theorem bind_eq_error_iff {x : Except ε α} {f : α → Except ε β} {e : ε} :
    (x >>= f) = .error e ↔ x = .error e ∨ ∃ a, x = .ok a ∧ f a = .error e := by
  cases x with
  | error e' => simp [bind, Except.bind]
  | ok a => simp [bind, Except.bind]

theorem require_eq_ok_iff {condition : Bool} {message : String} {u : Unit} :
    require condition message = .ok u ↔ condition = true := by
  unfold require
  split <;> simp_all

theorem require_eq_error_iff {condition : Bool} {message : String} {e : Error} :
    require condition message = .error e ↔ condition = false ∧ e = .configuration message := by
  cases condition <;> simp [require, eq_comm]

/-- A list is answered element by element. -/
theorem mapM_eq_ok_iff {f : α → Except ε β} {l : List α} {answers : List β} :
    l.mapM f = .ok answers ↔ List.Forall₂ (fun a b => f a = .ok b) l answers := by
  induction l generalizing answers with
  | nil => cases answers <;> simp [pure, Except.pure]
  | cons a l ih =>
    rw [List.mapM_cons, bind_eq_ok_iff, List.forall₂_cons_left_iff]
    simp only [bind_eq_ok_iff, ih]
    constructor
    · intro h
      obtain ⟨b, ha, rest, hrest, hanswers⟩ := h
      cases hanswers
      exact ⟨b, rest, ha, hrest, rfl⟩
    · intro h
      obtain ⟨b, rest, ha, hrest, rfl⟩ := h
      exact ⟨b, ha, rest, hrest, rfl⟩

/-- A list fails as its first element does that fails. -/
theorem mapM_eq_error_iff {f : α → Except ε β} {l : List α} {e : ε} :
    l.mapM f = .error e ↔
      ∃ before a after, l = before ++ a :: after ∧ (∀ x ∈ before, ∃ b, f x = .ok b) ∧
        f a = .error e := by
  induction l with
  | nil => simp [pure, Except.pure]
  | cons a l ih =>
    rw [List.mapM_cons, bind_eq_error_iff]
    constructor
    · intro h
      rcases h with ha | ⟨b, ha, hrest⟩
      · exact ⟨[], a, l, rfl, nofun, ha⟩
      · rcases bind_eq_error_iff.1 hrest with hl | ⟨_, _, hok⟩
        · obtain ⟨before, a', after, rfl, hbefore, ha'⟩ := ih.1 hl
          exact ⟨a :: before, a', after, rfl, List.forall_mem_cons.2 ⟨⟨b, ha⟩, hbefore⟩, ha'⟩
        · cases hok
    · intro h
      obtain ⟨before, a', after, hl, hbefore, ha'⟩ := h
      rcases List.append_eq_cons_iff.1 hl.symm with ⟨rfl, htail⟩ | ⟨before', rfl, hrest⟩
      · cases htail
        exact .inl ha'
      · obtain ⟨⟨b, hb⟩, hbefore⟩ := List.forall_mem_cons.1 hbefore
        have htail := ih.2 ⟨before', a', after, hrest, hbefore, ha'⟩
        exact .inr ⟨b, hb, bind_eq_error_iff.2 (.inl htail)⟩

theorem exists_mem_of_forall₂ {R : α → β → Prop} {l : List α} {m : List β}
    (h : List.Forall₂ R l m) {a : α} (ha : a ∈ l) : ∃ b ∈ m, R a b := by
  induction h with
  | nil => cases ha
  | cons hab _ ih =>
    rcases List.mem_cons.1 ha with rfl | ha
    · exact ⟨_, List.mem_cons_self, hab⟩
    · obtain ⟨b, hb, hR⟩ := ih ha
      exact ⟨b, List.mem_cons_of_mem _ hb, hR⟩

/-! ## Actions in a world -/

namespace World

/-- An action in a world. -/
abbrev Action (α : Type) : Type := ExceptT Error (StateM World) α

/-- The answer of an action, and the world afterwards. -/
def exec (w : World) (action : ExceptT Error (StateM World) α) : Except Error α × World :=
  action.run.run w

theorem exec_bind (w : World) (x : ExceptT Error (StateM World) α)
    (f : α → ExceptT Error (StateM World) β) :
    w.exec (x >>= f) =
      match w.exec x with
      | (.ok a, between) => between.exec (f a)
      | (.error e, between) => (.error e, between) := by
  unfold exec
  rw [ExceptT.run_bind, StateT.run_bind]
  rcases x.run.run w with ⟨_ | a, between⟩ <;> rfl

theorem exec_bind_eq_ok_iff {w w' : World} {x : ExceptT Error (StateM World) α}
    {f : α → ExceptT Error (StateM World) β} {b : β} :
    w.exec (x >>= f) = (.ok b, w') ↔
      ∃ a between, w.exec x = (.ok a, between) ∧ between.exec (f a) = (.ok b, w') := by
  rw [exec_bind]
  rcases w.exec x with ⟨_ | a, between⟩ <;> simp

/-- What is done with the answer of an action leaves the world as the action left it. -/
theorem exec_bind_pure (w : World) (x : ExceptT Error (StateM World) α) (f : α → β) :
    w.exec (x >>= fun a => pure (f a)) = ((w.exec x).1.map f, (w.exec x).2) := by
  rw [exec_bind]
  rcases w.exec x with ⟨_ | a, between⟩ <;> rfl

theorem exec_map (w : World) (x : ExceptT Error (StateM World) α) (f : α → β) :
    w.exec (f <$> x) = ((w.exec x).1.map f, (w.exec x).2) := by
  rw [map_eq_pure_bind, exec_bind_pure]

theorem exec_throw (w : World) (e : Error) :
    w.exec (throw e : ExceptT Error (StateM World) α) = (.error e, w) := rfl

/-- An action goes on after a check only if the check succeeds. -/
theorem exec_guard_eq_ok_iff {w w' : World} {check : Bool} {e : Error}
    {f : Unit → ExceptT Error (StateM World) β} {b : β} :
    w.exec (if check = true then f () else throw e >>= f) = (.ok b, w') ↔
      check = true ∧ w.exec (f ()) = (.ok b, w') := by
  cases check with
  | true => simp
  | false =>
    rw [if_neg Bool.false_ne_true, exec_bind_eq_ok_iff]
    simp [exec_throw]

theorem exec_liftExcept (w : World) (x : Except Error α) : w.exec (liftExcept x) = (x, w) := by
  cases x <;> rfl

theorem exec_tryCatch (w : World) (x : ExceptT Error (StateM World) α)
    (f : Error → ExceptT Error (StateM World) α) :
    w.exec (tryCatch x f) =
      match w.exec x with
      | (.ok a, w') => (.ok a, w')
      | (.error e, w') => w'.exec (f e) := by
  change (ExceptT.tryCatch x f).run.run w = _
  unfold exec ExceptT.tryCatch ExceptT.run ExceptT.mk
  rw [StateT.run_bind]
  rcases StateT.run x w with ⟨_ | a, w'⟩ <;> rfl

theorem exec_record (w : World) (entry : Entry) :
    w.exec (Host.record entry : ExceptT Error (StateM World) Unit) =
      (.ok (), { w with journal := entry :: w.journal }) := rfl

theorem exec_recordAll (w : World) (entries : List Entry) :
    w.exec (Host.recordAll entries : ExceptT Error (StateM World) Unit) =
      (.ok (), { w with journal := entries.reverse ++ w.journal }) := by
  induction entries generalizing w with
  | nil => rfl
  | cons entry entries ih =>
    rw [Host.recordAll, exec_bind, exec_record]
    simp [ih]

theorem exec_now (w : World) :
    w.exec (Host.now : ExceptT Error (StateM World) Timestamp) = (.ok w.clock.now, w.ticked) := rfl

theorem exec_readText (w : World) (path : String) :
    w.exec (Host.readText path : ExceptT Error (StateM World) (Except Fault String)) =
      (.ok (w.tree.readText path), w) := rfl

theorem exec_listNames (w : World) (path : String) :
    w.exec (Host.listNames path : ExceptT Error (StateM World) (Except Fault (List String))) =
      (.ok (w.tree.listNames path), w) := rfl

theorem exec_isPresent (w : World) (path : String) :
    w.exec (Host.isPresent path : ExceptT Error (StateM World) (Except Fault Bool)) =
      (.ok (w.tree.isPresent path), w) := rfl

theorem exec_createDirectories (w : World) (path : String) :
    w.exec (Host.createDirectories path : ExceptT Error (StateM World) (Except Fault Unit)) =
      (.ok (w.tree.createDirectories path).1,
        { w with tree := (w.tree.createDirectories path).2 }) := rfl

theorem exec_createNew (w : World) (path text : String) :
    w.exec (Host.createNew path text : ExceptT Error (StateM World) (Except Fault Unit)) =
      match w.tree.createNew path text with
      | .ok tree => (.ok (.ok ()), { w with tree })
      | .error fault => (.ok (.error fault), w) := by
  change ((Except.ok (change (fun t => t.createNew path text) w).1,
    (change (fun t => t.createNew path text) w).2) :
      Except Error (Except Fault Unit) × World) = _
  unfold change
  simp only
  cases w.tree.createNew path text <;> rfl

/-- A file operation that fails is an error. -/
theorem exec_orFail (w : World) (context : String)
    (operation : ExceptT Error (StateM World) (Except Fault α)) :
    w.exec (orFail context operation) =
      match w.exec operation with
      | (.ok (.ok a), w') => (.ok a, w')
      | (.ok (.error _), w') => (.error (.io context), w')
      | (.error e, w') => (.error e, w') := by
  rw [orFail, exec_bind]
  rcases w.exec operation with ⟨_ | _ | _, w'⟩ <;> rfl

end World

/-! ## Actions on a catalog in memory -/

namespace MemoryCatalog

/-- An action on a catalog in memory, in a world. -/
abbrev Action (α : Type) : Type := ExceptT Error (StateT MemoryCatalog (StateM World)) α

variable (c : MemoryCatalog) (w : World)

/-- The answer of an action, and the catalog and the world afterwards. -/
def exec (action : Action α) : (Except Error α × MemoryCatalog) × World :=
  (action.run.run c).run w

theorem exec_bind (x : Action α) (f : α → Action β) :
    c.exec w (x >>= f) =
      match c.exec w x with
      | ((.ok a, c'), w') => c'.exec w' (f a)
      | ((.error e, c'), w') => ((.error e, c'), w') := by
  unfold exec
  rw [ExceptT.run_bind, StateT.run_bind, StateT.run_bind]
  rcases (x.run.run c).run w with ⟨⟨_ | a, c'⟩, w'⟩ <;> rfl

theorem exec_liftExcept (x : Except Error α) :
    c.exec w (liftExcept x : Action α) = ((x, c), w) := by
  cases x <;> rfl

theorem exec_now :
    c.exec w (Host.now : Action Timestamp) = ((.ok w.clock.now, c), w.ticked) := rfl

theorem exec_record (entry : Entry) :
    c.exec w (Host.record entry : Action Unit) =
      ((.ok (), c), { w with journal := entry :: w.journal }) := rfl

theorem exec_recordAll (entries : List Entry) :
    c.exec w (Host.recordAll entries : Action Unit) =
      ((.ok (), c), { w with journal := entries.reverse ++ w.journal }) := by
  induction entries generalizing w with
  | nil => rfl
  | cons entry entries ih =>
    rw [Host.recordAll, exec_bind, exec_record]
    simp [ih]

/-- An operation that fails leaves the catalog as it was. -/
theorem exec_update (f : MemoryCatalog → Except Error MemoryCatalog) :
    c.exec w (update f : Action Unit) =
      match f c with
      | .ok c' => ((.ok (), c'), w)
      | .error e => ((.error e, c), w) := by
  have hget : c.exec w (get : Action MemoryCatalog) = ((.ok c, c), w) := rfl
  rw [update, exec_bind, hget]
  simp only
  cases f c <;> rfl

end MemoryCatalog

end ShardMerge
