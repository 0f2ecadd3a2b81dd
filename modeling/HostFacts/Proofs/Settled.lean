import HostFacts.Proofs.Runs

/-!
# Settled facts stay settled

Once a fact was answered or set, its getter gives the same answer for the rest of the run, up to
the next successful call of its setter or the next reset. The calls and changes in between do not
matter: other getters and setters, calls that fail, reports, changes of the properties.

* `Fact.cell_step_of_settles`, `Fact.cell_step_of_not_frees`: what one step does to a settled cell;
* **`Fact.settled_fact_stays`**: the law for whole runs;
* **`reset_starts_afresh`**: nothing from before a reset shows after it.
-/

namespace HostFacts

open Act Query

namespace Fact

/-- A move that settles a fact at a value: its getter answered with it, or its setter succeeded with
an argument that gives it. -/
inductive Settles (F : Fact) (a : F.Val) : Move → Outcome → Prop
  | read (events : List Event) : F.Settles a (.call F.getter) ⟨.ok (F.toValue a), events⟩
  | set (op : Op) (events : List Event) (h : F.set? op = some (.ok (.settled a))) :
    F.Settles a (.call op) ⟨.ok .null, events⟩

/-- A move that gives up what is known of a fact: a reset, or a successful call of its setter. -/
inductive Frees (F : Fact) : Move → Outcome → Prop
  | reset (o : Outcome) : F.Frees (.call .reset) o
  | set (op : Op) (events : List Event) (h : F.isSetter op = true) :
    F.Frees (.call op) ⟨.ok .null, events⟩

variable {F : Fact} {a : F.Val} {m : Move} {s : Scene}

/-! ## One step -/

theorem step_getter_of_settled {c : Context} {w : World} (h : F.cell c = .settled a) :
    (Move.call F.getter).step (c, w) = (⟨.ok (F.toValue a), []⟩, (c, w.clear)) := by
  have hr : F.getter.run (c, w.clear) = (.ok (F.toValue a), (c, w.clear)) := by
    rw [run_getter, bind_of_ok (ask_of_settled h)]
    rfl
  exact Move.step_call hr

/-- A call that settles a fact leaves the value in its cell. -/
theorem cell_run_of_settles {op : Op} {o : Outcome} (h : F.Settles a (.call op) o)
    (ho : (op.run s).1 = o.answer) : F.cell (op.run s).2.1 = .settled a := by
  cases h with
  | read events =>
    rw [run_getter] at ho ⊢
    rcases hx : F.ask s with ⟨e | b, c', w'⟩
    · rw [bind_of_error hx] at ho
      cases ho
    · rw [bind_of_ok hx] at ho ⊢
      obtain rfl : b = a := toValue_injective (by simpa using ho)
      exact cell_of_ask_ok hx
  | set op events h =>
    rw [run_set_of_ok h]
    exact cell_put _

theorem cell_step_of_settles {o : Outcome} (h : F.Settles a m o) (ho : (m.step s).1 = o) :
    F.cell (m.step s).2.1 = .settled a := by
  subst ho
  cases m with
  | call op => exact cell_run_of_settles h rfl
  | _ => cases h

/-- **A settled cell survives every move that does not free its fact.** -/
theorem cell_step_of_not_frees (h : F.cell s.1 = .settled a) (hm : ¬ F.Frees m (m.step s).1) :
    F.cell (m.step s).2.1 = .settled a := by
  cases m with
  | plug source => exact (cell_withDirectorySource _).trans h
  | put name value => exact (cell_withSource _).trans h
  | erase name => exact (cell_withSource _).trans h
  | setVariable o name value => exact h
  | unsetVariable o name => exact h
  | call op =>
    show F.cell (op.run (s.1, s.2.clear)).2.1 = _
    cases hop : op.isSetting with
    | false => exact (within_run within_extends hop (s.1, s.2.clear)).cell F a h
    | true =>
      rcases exists_set_of_isSetting hop with rfl | ⟨id, rfl⟩ | ⟨G, e | b, hG⟩
      · exact absurd (Frees.reset _) hm
      · exact (cell_withDirectorySource _).trans h
      · rw [run_set_of_error hG]
        exact h
      · -- a setter that succeeds is one of another fact
        have hFG : G ≠ F := by
          rintro rfl
          refine hm ?_
          show G.Frees (.call op) ⟨(op.run (s.1, s.2.clear)).1, _⟩
          rw [run_set_of_ok hG]
          exact Frees.set op _ (by simp [isSetter, hG])
        rw [run_set_of_ok hG]
        exact (cell_put_of_ne hFG _).trans h

/-! ## Whole runs -/

/-- **Settled facts stay settled.** If a move of a run settles a fact at a value and no later move
frees it, then its getter answers with this value, and nothing at all is read, called or logged. -/
theorem settled_fact_stays (F : Fact) (a : F.Val) {s : Scene} {moves : List Move}
    {before between rest : List (Move × Outcome)} {m : Move} {o o' : Outcome}
    (h : trace moves s = before ++ (m, o) :: between ++ (.call F.getter, o') :: rest)
    (hm : F.Settles a m o) (hb : ∀ e ∈ between, ¬ F.Frees e.1 e.2) :
    o' = ⟨.ok (F.toValue a), []⟩ := by
  rw [List.append_assoc] at h
  -- the run, cut before and after `m` and before the getter
  obtain ⟨_, moves₁, -, -, h₁⟩ := exists_of_trace_eq_append h
  obtain ⟨moves₂, -, ho, h₂⟩ := exists_of_trace_eq_cons h₁
  obtain ⟨moves₃, moves₄, -, h₃, h₄⟩ := exists_of_trace_eq_append h₂
  obtain ⟨-, -, ho', -⟩ := exists_of_trace_eq_cons h₄
  have hset : F.cell (after moves₃ _).1 = .settled a :=
    after_of_forall_step (P := fun s => F.cell s.1 = .settled a)
      (Q := fun m o => ¬ F.Frees m o) (fun _ _ hs hm => cell_step_of_not_frees hs hm) moves₃ _
      (cell_step_of_settles hm ho.symm) (by rw [h₃]; exact hb)
  rw [ho', step_getter_of_settled hset]

/-- A user who was detected stays when the property and the system change and a setter fails. -/
theorem detected_user_stays :
    ∃ before between o o',
      trace [.call .user, .put "user.name" "bob", .call (.setOsType (some "Windows")),
          .call (.setVersionText "rc"), .call .user]
          (Context.new (.mapping (.ofList [("user.name", "ann")])), World.empty) =
        before ++ (.call .user, o) :: between ++ (.call .user, o') :: [] ∧
      Fact.user.Settles "ann" (.call .user) o ∧ (∀ e ∈ between, ¬ Fact.user.Frees e.1 e.2) ∧
      o' = ⟨.ok (.text "ann"), []⟩ := by
  have h : trace [.call .user, .put "user.name" "bob", .call (.setOsType (some "Windows")),
      .call (.setVersionText "rc"), .call .user]
      (Context.new (.mapping (.ofList [("user.name", "ann")])), World.empty) =
      [] ++ (.call .user, ⟨.ok (.text "ann"), [.read "platctx.currentUser", .read "user.name",
          .read "platctx.osType", .read "os.name", .log ⟨.debug, .osType, "Resolved OS type ''"⟩,
          .log ⟨.debug, .users, "Resolved current user 'ann'"⟩]⟩) ::
        [(.put "user.name" "bob", ⟨.ok .null, []⟩),
         (.call (.setOsType (some "Windows")), ⟨.ok .null, []⟩),
         (.call (.setVersionText "rc"), ⟨.error (.unparsableVersion (.text "") []), []⟩)] ++
        (.call .user, ⟨.ok (.text "ann"), []⟩) :: [] := rfl
  refine ⟨_, _, _, _, h, .read _, ?hb, settled_fact_stays .user "ann" h (.read _) ?hb⟩
  intro e he hf
  simp only [List.mem_cons, List.not_mem_nil, or_false] at he
  rcases he with rfl | rfl | rfl
  · cases hf
  · cases hf with
    | set _ _ hset => exact absurd hset (by decide)
  · cases hf

end Fact

/-! ## Resets -/

/-- **A reset is a fresh start.** After any run, a reset succeeds without reading anything, and from
then on every run has the trace that it has on a new context over the same properties as they are:
the same answers, the same faults, and the same events. -/
theorem reset_starts_afresh (start : Scene) (history rest : List Move) :
    let s := after history start
    let fresh : Scene := (Context.new s.1.source, s.2)
    trace (.call .reset :: rest) s = (.call .reset, ⟨.ok .null, []⟩) :: trace rest fresh := by
  intro s fresh
  have hr : (Move.call .reset).step s = (⟨.ok .null, []⟩, (Context.new s.1.source, s.2.clear)) :=
    Move.step_call (run_reset s.1 s.2.clear)
  rw [trace, hr, trace_clear]

end HostFacts
