import HostFacts.Proofs.Facts

/-!
# Operations that only ask

The operations that set nothing are made of a few pieces: they look known properties up, ask for
facts and for the working directory, write log lines, and catch faults. `Asks S x` says that a query
is made of these pieces and touches no part of a context but those in `S`. What holds of the pieces,
and of queries in a row if it holds of each, holds of all these operations.

* **`Op.asks_run`**: an operation that sets nothing asks about its parts;
* `Asks.within`, `Asks.alike`, `Asks.fixed`: what holds of the pieces holds of the operations;
* `Query.within_ask`: what asking for facts does to a context;
* `Query.within_extends`: it only extends what the context knows.
-/

namespace HostFacts

open Act Query HostFacts.Text

/-! ## The parts of a context -/

/-- A part of a context: the cell of a fact, or the place for a source of working directories. -/
inductive Part where
  | fact (F : Fact)
  | directory
  deriving DecidableEq, Repr

/-- All parts. -/
def Part.all : List Part :=
  [.fact .osType, .fact .constrainedRuntime, .fact .alternateVm, .fact .user, .fact .version,
   .directory]

/-- The parts that asking for a fact touches. The user is read with the system known. -/
def Fact.parts : Fact → List Part
  | user => [.fact .user, .fact .osType]
  | F => [.fact F]

namespace Op

/-- Whether an operation sets something instead of asking for it. -/
def isSetting : Op → Bool
  | setOsType _ | setConstrainedRuntime _ | setAlternateVm _ | setUser _ | setVersion _
  | setVersionText _ | setDirectorySource _ | reset => true
  | _ => false

/-- The parts that an operation touches. -/
def parts : Op → List Part
  | osType | isWindows | isMacos | isUnixLike | canonicalUser _ | canonicalGroup _ _
  | comparablePath _ | shellCommand _ | shellElements _ => Fact.osType.parts
  | isConstrainedRuntime | setConstrainedRuntime _ => Fact.constrainedRuntime.parts
  | isAlternateVm | setAlternateVm _ => Fact.alternateVm.parts
  | user | isRoot => Fact.user.parts
  | version | setVersion _ | setVersionText _ => Fact.version.parts
  | workingDirectory | setDirectorySource _ => [.directory]
  | setOsType _ => [.fact .osType]
  | setUser _ => [.fact .user]
  | reset | describe => Part.all

end Op

/-! ## Queries of the property source -/

namespace Query

variable {α β : Type}

/-- An action on the property source of the context. -/
def ofSource (x : Source → Act World α) : Query α := do
  let c ← context
  ofWorld (x c.source)

theorem ofSource_apply (x : Source → Act World α) (c : Context) (w : World) :
    ofSource x (c, w) = ((x c.source w).1, (c, (x c.source w).2)) := rfl

theorem ofSource_bind (x : Source → Act World α) (f : α → Source → Act World β) :
    ofSource (fun s => x s >>= fun a => f a s) = ofSource x >>= fun a => ofSource (f a) := by
  funext ⟨c, w⟩
  rw [ofSource_apply, bind_apply, bind_apply, ofSource_apply]
  rcases x c.source w with ⟨_ | _, _⟩ <;> rfl

/-- A plain mapping answers a lookup, which is noted. -/
theorem lookup_mapping {s : Context × World} {entries : Entries String String}
    (h : s.1.source = .mapping entries) (name : String) :
    lookup name s = (.ok (entries.get? name), (s.1, s.2.record (.read name))) := by
  show (((s.1.source.lookup name s.2).1, (s.1, (s.1.source.lookup name s.2).2)) :
    _ × Context × World) = _
  rw [h]
  rfl

/-- The working directory, by what is plugged into the place for its source. -/
def directoryFrom : Option Nat → Query (Option String)
  | some id => do return (← ofWorld (callSource id)).map Path.normal
  | none => do
    match ← lookup Property.userDirectory with
    | some directory =>
      if isBlank (some directory) then workingDirectory.unknown
      else return some (Path.normal directory)
    | none => workingDirectory.unknown

theorem workingDirectory_apply (c : Context) (w : World) :
    workingDirectory (c, w) = directoryFrom c.directorySource (c, w) := by
  have hc : context (c, w) = (.ok c, (c, w)) := rfl
  unfold workingDirectory
  rw [bind_of_ok hc]
  cases c.directorySource <;> rfl

end Query

/-! ## Queries that only ask -/

/-- A query that only asks, and touches no parts but the given ones. -/
inductive Asks (S : Part → Prop) : {α : Type} → Query α → Prop
  | pure {α : Type} (a : α) : Asks S (pure a : Query α)
  | fail {α : Type} (e : Fault) : Asks S (fail e : Query α)
  | note (level : Level) (logger : Logger) (message : String) :
    Asks S (Query.note level logger message)
  | lookup (name : String) (h : name ∈ Property.overrides ++ Property.system) :
    Asks S (Query.lookup name)
  | directory (h : S .directory) : Asks S workingDirectory
  /-- A fact is asked for by working it out if need be. -/
  | ask (F : Fact) (h : S (.fact F)) (hw : Asks S F.workOut) : Asks S F.ask
  | bind {α β : Type} {x : Query α} {f : α → Query β} (hx : Asks S x) (hf : ∀ a, Asks S (f a)) :
    Asks S (x >>= f)
  | attempt {α : Type} {x : Query α} (hx : Asks S x) : Asks S (attempt x)

section Pieces

variable {S : Part → Prop} {α β : Type} {x : Query α}

theorem Asks.map (h : Asks S x) (f : α → β) : Asks S (do return f (← x)) :=
  h.bind fun _ => .pure _

theorem asks_ofExcept : ∀ r : Except Fault α, Asks S (ofExcept r : Query α)
  | .ok a => .pure a
  | .error e => .fail e

theorem asks_resolve {first second : String} (h₁ : first ∈ Property.overrides ++ Property.system)
    (h₂ : second ∈ Property.overrides ++ Property.system) :
    Asks S (Query.resolve first second) := by
  show Asks S (ofSource fun s => s.lookup first >>= fun value =>
    if !isBlank value then pure value else s.lookup second)
  rw [ofSource_bind]
  refine (Asks.lookup first h₁).bind fun value => ?_
  cases !isBlank value with
  | true => exact .pure value
  | false => exact .lookup second h₂

theorem asks_search (signal : Signal) : ∀ properties : List String,
    (∀ p ∈ properties, p ∈ Property.overrides ++ Property.system) →
      Asks S (ofSource fun s => signal.search s properties)
  | [], _ => (Asks.note _ _ _).bind fun _ => .pure false
  | property :: rest, h => by
    show Asks S (ofSource fun s => s.lookup property >>= fun value =>
      if signal.matcher value then
        logLine .debug .flags s!"{signal.name} detected from {property}" >>= fun _ => pure true
      else signal.search s rest)
    rw [ofSource_bind]
    refine (Asks.lookup property (h property List.mem_cons_self)).bind fun value => ?_
    cases signal.matcher value with
    | true => exact (Asks.note _ _ _).bind fun _ => .pure true
    | false => exact asks_search signal rest fun p hp => h p (List.mem_cons_of_mem property hp)

theorem asks_detect {signal : Signal} (h : ∀ p ∈ signal.overrideProperty :: signal.properties,
    p ∈ Property.overrides ++ Property.system) : Asks S (detect signal) := by
  show Asks S (ofSource fun s => s.lookup signal.overrideProperty >>= fun value =>
    if signal.matcher value then
      logLine .debug .flags s!"{signal.name} enabled by {signal.overrideProperty}" >>=
        fun _ => pure true
    else signal.search s signal.properties)
  rw [ofSource_bind]
  obtain ⟨ho, hp⟩ := List.forall_mem_cons.mp h
  refine (Asks.lookup _ ho).bind fun value => ?_
  cases signal.matcher value with
  | true => exact (Asks.note _ _ _).bind fun _ => .pure true
  | false => exact asks_search signal _ hp

theorem asks_detect_constrainedRuntime : Asks S (detect .constrainedRuntime) :=
  asks_detect (by decide)

theorem asks_detect_alternateVm : Asks S (detect .alternateVm) := asks_detect (by decide)

end Pieces

/-! ## Facts -/

section Facts

variable {S : Part → Prop}

theorem asks_detectOsType : Asks S detectOsType :=
  (asks_resolve (by decide) (by decide)).bind fun _ => (Asks.note _ _ _).bind fun _ => .pure _

theorem asks_osType (h : S (.fact .osType)) : Asks S osType := .ask .osType h asks_detectOsType

theorem asks_isWindows (h : S (.fact .osType)) : Asks S isWindows := (asks_osType h).map _

theorem asks_acceptUser (name : Option String) : Asks S (acceptUser name) := by
  have missing : Asks S missingUser := (Asks.note _ _ _).bind fun _ => .fail _
  unfold acceptUser
  split
  · exact missing
  · split
    · exact missing
    · exact (Asks.note _ _ _).bind fun _ => .pure _

theorem asks_resolve_user : Asks S (Query.resolve Property.currentUser Property.userName) :=
  asks_resolve (by decide) (by decide)

theorem asks_user (h : ∀ p ∈ Fact.user.parts, S p) : Asks S user := by
  have ho : S (.fact .osType) := h _ (by simp [Fact.parts])
  exact .ask .user (h _ (by simp [Fact.parts]))
    (asks_resolve_user.bind fun _ => ((asks_isWindows ho).map _).bind fun _ => asks_acceptUser _)

theorem asks_readVersion (raw : Option String) : Asks S (readVersion raw) := by
  have missing : Asks S missingVersion := (Asks.note _ _ _).bind fun _ => .fail _
  unfold readVersion
  split
  · exact missing
  · split
    · exact missing
    · unfold readVersionText
      split
      · exact (Asks.note _ _ _).bind fun _ => .pure _
      · exact (Asks.note _ _ _).bind fun _ => .fail _
      · exact .fail _

theorem asks_detectVersion : Asks S detectVersion :=
  (asks_resolve (by decide) (by decide)).bind fun _ => asks_readVersion _

/-- Asking for a fact touches the parts of the fact. -/
theorem asks_ask : ∀ F : Fact, (∀ p ∈ F.parts, S p) → Asks S F.ask
  | .osType, h => asks_osType (h _ (by simp [Fact.parts]))
  | .constrainedRuntime, h =>
    .ask .constrainedRuntime (h _ (by simp [Fact.parts])) asks_detect_constrainedRuntime
  | .alternateVm, h => .ask .alternateVm (h _ (by simp [Fact.parts])) asks_detect_alternateVm
  | .user, h => asks_user h
  | .version, h => .ask .version (h _ (by simp [Fact.parts])) asks_detectVersion

end Facts

/-! ## Operations -/

section Operations

variable {S : Part → Prop} {α : Type}

theorem asks_optional {x : Query α} (h : Asks S x) : Asks S (optional x) := by
  refine h.attempt.bind fun r => ?_
  split
  · exact .pure _
  · split
    · exact (Asks.note _ _ _).bind fun _ => .pure _
    · exact .fail _

theorem asks_windowsOr (h : S (.fact .osType)) : ∀ windows, Asks S (windowsOr windows)
  | some b => .pure b
  | none => asks_isWindows h

theorem asks_isRoot (h : ∀ p ∈ Fact.user.parts, S p) : Asks S isRoot := by
  refine (asks_isWindows (h _ (by simp [Fact.parts]))).bind fun windows => ?_
  split
  · exact .pure _
  · exact (asks_user h).map _

theorem asks_describe (h : ∀ p, S p) : Asks S describe := by
  have ho := asks_osType (h _)
  have hu : Asks S (do return (← user, ← isRoot) : Query (String × Bool)) :=
    (asks_user fun p _ => h p).bind fun _ => (asks_isRoot fun p _ => h p).map _
  have hv : Asks S versionText := (asks_ask .version fun p _ => h p).bind fun _ => asks_ofExcept _
  exact ho.bind fun _ => (asks_isWindows (h _)).bind fun _ => (ho.map _).bind fun _ =>
    (ho.map _).bind fun _ => (asks_ask .constrainedRuntime fun p _ => h p).bind fun _ =>
    (asks_ask .alternateVm fun p _ => h p).bind fun _ => (asks_optional hu).bind fun _ =>
    (asks_optional hv).bind fun _ => (Asks.directory (h _)).bind fun _ =>
    ((asks_windowsOr (h _) none).map _).map _

/-- **An operation that sets nothing asks about its parts.** -/
theorem Op.asks_run {op : Op} (hop : op.isSetting = false) (h : ∀ p ∈ op.parts, S p) :
    Asks S op.run := by
  cases op with
  | osType => exact (asks_ask .osType h).map _
  | isWindows => exact ((asks_ask .osType h).map _).map _
  | isMacos => exact ((asks_ask .osType h).map _).map _
  | isUnixLike => exact ((asks_ask .osType h).map _).map _
  | isConstrainedRuntime => exact (asks_ask .constrainedRuntime h).map _
  | isAlternateVm => exact (asks_ask .alternateVm h).map _
  | user => exact (asks_user h).map _
  | isRoot => exact (asks_isRoot h).map _
  | version => exact (asks_ask .version h).map _
  | workingDirectory => exact (Asks.directory (h _ (by simp [parts]))).map _
  | canonicalUser _ => exact (((asks_ask .osType h).map _).map _).map _
  | canonicalGroup _ _ => exact (((asks_ask .osType h).map _).map _).map _
  | comparablePath _ => exact (((asks_ask .osType h).map _).map _).map _
  | shellCommand b => exact ((asks_windowsOr (h _ (by simp [parts, Fact.parts])) b).map _).map _
  | shellElements b => exact ((asks_windowsOr (h _ (by simp [parts, Fact.parts])) b).map _).map _
  | describe => exact (asks_describe fun p => h p (by cases p with
      | directory => simp [parts, Part.all]
      | fact F => cases F <;> simp [parts, Part.all])).map _
  | setOsType _ | setConstrainedRuntime _ | setAlternateVm _ | setUser _ | setVersion _
  | setVersionText _ | setDirectorySource _ | reset => simp [isSetting] at hop

end Operations

/-! ## What holds of the pieces -/

section Pieces

variable {S : Part → Prop} {α : Type} {x : Query α}

/-- What the pieces do to the state, a query made of them does. -/
theorem Asks.within {R : Context × World → Context × World → Prop} [IsPreorder _ R]
    (note : ∀ level logger message, Within R (Query.note level logger message))
    (lookup : ∀ name, Within R (Query.lookup name))
    (directory : S .directory → Within R workingDirectory)
    (ask : ∀ F, S (.fact F) → Within R F.workOut → Within R F.ask) (h : Asks S x) :
    Within R x := by
  induction h with
  | pure a => exact within_pure a
  | fail e => exact within_fail e
  | note level logger message => exact note level logger message
  | lookup name _ => exact lookup name
  | directory h => exact directory h
  | ask F h _ ih => exact ask F h ih
  | bind _ _ ihx ihf => exact ihx.bind ihf
  | attempt _ ih => exact ih.attempt

/-- A query that asks for no facts leaves the context as it was. -/
theorem Asks.keeps {R : Context → Context → Prop} [IsPreorder Context R]
    (h : Asks (· = .directory) x) : Within (onContext R) x :=
  h.within within_note within_lookup (fun _ => within_workingDirectory) fun _ hF => by cases hF

/-- A query ends alike in related states if the pieces do. -/
theorem Asks.alike {R : Context × World → Context × World → Prop}
    (note : ∀ level logger message, Alike R (Query.note level logger message))
    (lookup : ∀ name ∈ Property.overrides ++ Property.system, Alike R (Query.lookup name))
    (directory : S .directory → Alike R workingDirectory)
    (ask : ∀ F, S (.fact F) → Alike R F.workOut → Alike R F.ask) (h : Asks S x) : Alike R x := by
  induction h with
  | pure a => exact alike_pure a
  | fail e => exact alike_fail e
  | note level logger message => exact note level logger message
  | lookup name h => exact lookup name h
  | directory h => exact directory h
  | ask F h _ ih => exact ask F h ih
  | bind _ _ ihx ihf => exact ihx.bind ihf
  | attempt _ ih => exact ih.attempt

/-- A query has a fixed answer in a class of states if the pieces do. -/
theorem Asks.fixed {P : Context × World → Prop}
    (note : ∀ level logger message, Fixed P (Query.note level logger message))
    (lookup : ∀ name, Fixed P (Query.lookup name))
    (directory : S .directory → Fixed P workingDirectory)
    (ask : ∀ F, S (.fact F) → Fixed P F.workOut → Fixed P F.ask) (h : Asks S x) : Fixed P x := by
  induction h with
  | pure a => exact ⟨_, ends_pure a⟩
  | fail e => exact ⟨_, ends_fail e⟩
  | note level logger message => exact note level logger message
  | lookup name _ => exact lookup name
  | directory h => exact directory h
  | ask F h _ ih => exact ask F h ih
  | bind _ _ ihx ihf => exact ihx.bind ihf
  | attempt _ ih => exact ih.attempt

end Pieces

namespace Query

section Related

variable {R : Context × World → Context × World → Prop}

/-- A fact is told alike in states with the same cell for it. -/
theorem alike_ask_of_cell {F : Fact} (cell : ∀ s s', R s s' → F.cell s'.1 = F.cell s.1)
    (put : ∀ a, Alike R (update (F.put a))) (h : Alike R F.workOut) : Alike R F.ask := by
  have resolve : Alike R F.resolve := h.bind fun a => (put _).bind fun _ => alike_pure a
  rintro ⟨c, w⟩ ⟨c', w'⟩ hs
  have hc' : F.cell c' = F.cell c := cell _ _ hs
  cases hc : F.cell c with
  | settled a =>
    rw [Fact.ask_of_settled hc, Fact.ask_of_settled (hc'.trans hc)]
    exact ⟨rfl, hs⟩
  | empty =>
    rw [Fact.ask_of_empty hc, Fact.ask_of_empty (hc'.trans hc)]
    exact resolve _ _ hs

/-- The working directory is told alike in states with the same place for its source. -/
theorem alike_workingDirectory_of_source
    (place : ∀ s s', R s s' → s'.1.directorySource = s.1.directorySource)
    (note : ∀ level logger message, Alike R (Query.note level logger message))
    (lookup : Alike R (Query.lookup Property.userDirectory))
    (source : ∀ id, Alike R (ofWorld (callSource id))) : Alike R workingDirectory := by
  have unknown : Alike R workingDirectory.unknown := (note _ _ _).bind fun _ => alike_pure _
  have told : ∀ place, Alike R (directoryFrom place)
    | some id => (source id).bind fun _ => alike_pure _
    | none => by
      refine lookup.bind fun value => ?_
      split
      · split
        · exact unknown
        · exact alike_pure _
      · exact unknown
  rintro ⟨c, w⟩ ⟨c', w'⟩ h
  have hp : c'.directorySource = c.directorySource := place _ _ h
  rw [workingDirectory_apply, workingDirectory_apply, hp]
  exact told _ _ _ h

end Related

variable {R : Context → Context → Prop} [IsPreorder Context R]

/-- **An operation that only asks does to the context what asking for facts does.** -/
theorem within_run (h : ∀ F : Fact, Within (onContext R) F.ask) {op : Op}
    (hop : op.isSetting = false) : Within (onContext R) op.run :=
  (Op.asks_run (S := fun _ => True) hop fun _ _ => trivial).within within_note within_lookup
    (fun _ => within_workingDirectory) fun F _ _ => h F

theorem within_ask_of_workOut {F : Fact} (h : Within (onContext R) F.workOut)
    (settle : ∀ (s s' : Context × World) (a : F.Val), F.cell s.1 = .empty →
      F.workOut s = (.ok a, s') → R s.1 s'.1 → R s.1 (F.put (.settled a) s'.1)) :
    Within (onContext R) F.ask := by
  rintro ⟨c, w⟩
  have hs : R c (F.workOut (c, w)).2.1 := h (c, w)
  cases hc : F.cell c with
  | settled a =>
    rw [Fact.ask_of_settled hc]
    exact refl_of R c
  | empty =>
    rw [Fact.ask_of_empty hc]
    rcases hx : F.workOut (c, w) with ⟨e | a, c', w'⟩ <;> rw [hx] at hs
    · rw [Fact.resolve_of_error hx]
      exact hs
    · rw [Fact.resolve_of_ok hx]
      exact settle (c, w) (c', w') a hc hx hs

/-- **Asking for facts does to the context what settling them does**, once they are worked out. -/
theorem within_ask (settle : ∀ (F : Fact) (s s' : Context × World) (a : F.Val),
      F.cell s.1 = .empty → F.workOut s = (.ok a, s') → R s.1 s'.1 →
      R s.1 (F.put (.settled a) s'.1)) (F : Fact) : Within (onContext R) F.ask :=
  (asks_ask (S := fun _ => True) F fun _ _ => trivial).within within_note within_lookup
    (fun _ => within_workingDirectory) fun F _ h => within_ask_of_workOut h (settle F)

/-- **Asking for a fact only extends what the context knows**, also when no answer comes. -/
theorem within_extends (F : Fact) : Within (onContext Context.Extends) F.ask :=
  within_ask (fun _ _ _ a hc _ hs => hs.put hc a) F

end Query

end HostFacts
