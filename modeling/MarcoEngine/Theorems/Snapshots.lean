import MarcoEngine.Snapshots

/-!
# Snapshots are whole

The runtime configuration and the target publication are seqlocks: each access of their threads is a step of one, or touches a local
variable only. So what a reader takes is one whole payload that was the current one during the call, as long as the sequence number
cannot wrap around in the meantime.
-/

namespace MarcoEngine

open Runs

namespace SnapshotAux

/-! ## The sequence number -/

theorem toNat_succ (seq : UInt32) : (seq + 1).toNat = (seq.toNat + 1) % 2 ^ 32 := by
  rw [UInt32.toNat_add]
  rfl

theorem isOdd_iff (seq : UInt32) : isOdd seq = true ↔ ¬seq.toNat % 2 = 0 := by
  have hand : (seq &&& 1).toNat = seq.toNat % 2 := by
    rw [UInt32.toNat_and]
    exact Nat.and_one_is_mod _
  rw [isOdd, bne_iff_ne, ne_eq, ← UInt32.toNat_inj, hand]
  rfl

/-- An even number after which the sequence number of the first payload comes. -/
theorem seq_init (generation : UInt32) :
    2 ∣ (2 * generation).toNat + (2 ^ 32 - 2) ∧
      (2 * generation).toNat = ((2 * generation).toNat + (2 ^ 32 - 2) + 2) % 2 ^ 32 := by
  have hmul : (2 * generation).toNat = 2 * generation.toNat % 2 ^ 32 := by
    rw [UInt32.toNat_mul]
    rfl
  have hlt := (2 * generation).toNat_lt
  omega

end SnapshotAux

open SnapshotAux

/-! ## The runtime configuration -/

/-- A reader of the configuration as a reader of a seqlock. -/
def Getter.view : Getter → Seqlock.Reader UInt64
  | .idle => .idle
  | .looping since => .starting since
  | .loading since version seq0 buffer => .reading since version seq0.toNat buffer

/-- The writer of the configuration as the writer of a seqlock. -/
def Publisher.view {C : Type} {words : Nat} (layout : Layout C words) : Publisher C → Seqlock.Writer words UInt64
  | .storing published _ i => .writing (layout.toWords published) i
  | _ => .idle

namespace ActiveConfig

variable {C : Type} {words : Nat} {ρ : Type} {layout : Layout C words} {m : ActiveConfig C words ρ}

/-- The configuration as a seqlock. -/
def view (layout : Layout C words) (m : ActiveConfig C words ρ) : Seqlock.State words ρ UInt64 where
  cells := m.active
  seq := m.seq.toNat
  writer := m.publisher.view layout
  readers := Getter.view ∘ m.getters
  payloads := m.payloads.map layout.toWords
  returns := m.returns

/-- What `Get` returned is one of the payloads that were current during the call, if fewer than 2^31 publications overlapped it. -/
def Untorn (layout : Layout C words) (m : ActiveConfig C words ρ) : Prop :=
  ∀ read ∈ m.returns, read.begun - read.since < 2 ^ 31 →
    ∃ version c, read.since ≤ version ∧ version ≤ read.upto ∧ m.payloads[version - 1]? = some c ∧ layout.ofWords read.words = c

namespace ViewAux

/-- The writer goes by the sequence number it has loaded; nobody else changes it. -/
def Loaded (m : ActiveConfig C words ρ) : Prop :=
  match m.publisher with
  | .loaded _ seq => m.seq = seq
  | .storing _ seq _ => m.seq = seq + 1
  | _ => True

theorem begun_eq (layout : Layout C words) (m : ActiveConfig C words ρ) :
    m.begun = (m.view layout).payloads.length + (m.view layout).writer.busy := by
  rw [begun, view, List.length_map]
  cases m.publisher <;> rfl

variable [DecidableEq ρ]

theorem step_loaded (h : Loaded m) (a : Act C ρ) : Loaded (step layout m a) := by
  cases a with
  | publish published =>
    simp only [step]
    split
    · trivial
    · exact h
  | publisher =>
    simp only [step, stepPublisher]
    split
    next => exact h
    next => exact rfl
    next published seq _ => exact rfl
    next published seq i hstoring =>
      rw [Loaded, hstoring] at h
      split
      · exact h
      · trivial
  | get r =>
    simp only [step]
    split <;> exact h
  | getter r =>
    simp only [step, stepGetter]
    split
    · exact h
    · split <;> exact h
    · split
      · exact h
      · split <;> exact h

theorem view_step (h : Loaded m) (a : Act C ρ) :
    (step layout m a).view layout = m.view layout ∨
      ∃ act, (step layout m a).view layout = Seqlock.step (2 ^ 32) (m.view layout) act := by
  cases a with
  | publish published =>
    left
    simp only [step]
    split
    next hidle => simp [view, Publisher.view, hidle]
    next => rfl
  | publisher =>
    simp only [step, stepPublisher]
    split
    next => exact .inl rfl
    next published hcalled =>
      left
      simp [view, Publisher.view, hcalled]
    next published seq hloaded =>
      right
      refine ⟨.publish (layout.toWords published), ?_⟩
      rw [Loaded, hloaded] at h
      simp [view, Publisher.view, Seqlock.step, hloaded, ← h]
    next published seq i hstoring =>
      right
      rw [Loaded, hstoring] at h
      split
      next hi =>
        refine ⟨.store, ?_⟩
        simp [view, Publisher.view, Seqlock.step, hstoring, hi]
      next hi =>
        refine ⟨.finish, ?_⟩
        have hseq : (seq + 2).toNat = (m.seq.toNat + 1) % 2 ^ 32 := by
          rw [h, ← toNat_succ]
          congr 1
          rw [UInt32.add_assoc]
          rfl
        simp [view, Publisher.view, Seqlock.step, hstoring, hi, hseq]
  | get r =>
    simp only [step]
    split
    next hidle =>
      right
      refine ⟨.call r, ?_⟩
      simp [view, Seqlock.step, Getter.view, hidle, Function.comp_update]
    next => exact .inl rfl
  | getter r =>
    simp only [step, stepGetter]
    split
    next => exact .inl rfl
    next since hlooping =>
      split
      next hodd => exact .inl rfl
      next heven =>
        right
        rw [isOdd_iff, not_not] at heven
        refine ⟨.sample r, ?_⟩
        simp [view, Seqlock.step, Getter.view, hlooping, Function.comp_update, heven]
    next since version seq0 buffer hloading =>
      split
      next hlt =>
        right
        refine ⟨.load r, ?_⟩
        simp [view, Seqlock.step, Getter.view, hloading, Function.comp_update, hlt]
      next hfull =>
        right
        refine ⟨.check r, ?_⟩
        have hbegun := begun_eq layout m
        split
        next hsame =>
          simp only [view] at hbegun
          simp [view, Seqlock.step, Getter.view, hloading, Function.comp_update, hfull, hsame, hbegun]
        next hchanged =>
          have hne : ¬m.seq.toNat = seq0.toNat := fun heq => hchanged (UInt32.toNat_inj.mp heq).symm
          simp [view, Seqlock.step, Getter.view, hloading, Function.comp_update, hfull, hne]

omit [DecidableEq ρ] in
theorem untorn_of_inv {k : Nat} (h : Seqlock.Inv (2 ^ 32) k (m.view layout)) : m.Untorn layout := by
  intro read hread hfew
  obtain ⟨version, p, hsince, hupto, hp, hwords⟩ := h.returns read hread hfew
  obtain ⟨c, hc, rfl⟩ : ∃ c, m.payloads[version - 1]? = some c ∧ layout.toWords c = p := by
    simpa only [view, List.getElem?_map, Option.map_eq_some_iff] using hp
  exact ⟨version, c, hsince, hupto, hc, by rw [hwords, layout.ofWords_toWords]⟩

theorem run_untorn (layout : Layout C words) (config : C) (generation : UInt32) (acts : List (Act C ρ)) :
    (run (step layout) (init layout config generation) acts).Untorn layout := by
  obtain ⟨heven, hseq⟩ := seq_init generation
  have hinit : Seqlock.Inv (2 ^ 32) ((2 * generation).toNat + (2 ^ 32 - 2))
      ((init layout config generation : ActiveConfig C words ρ).view layout) := Seqlock.init_inv (layout.toWords config) hseq
  have hloaded : Loaded (init layout config generation : ActiveConfig C words ρ) := trivial
  have hview : ∀ (m : ActiveConfig C words ρ) (a : Act C ρ), Loaded m → (step layout m a).view layout = m.view layout ∨
      ∃ act, (step layout m a).view layout = Seqlock.step (2 ^ 32) (m.view layout) act :=
    fun m a hm => view_step hm a
  exact untorn_of_inv
    (Seqlock.run_inv (view layout) Loaded (by decide) heven (fun m a hm => step_loaded hm a) hview hloaded hinit acts)

end ViewAux

end ActiveConfig

/-! ## The target publication -/

/-- A reader of the publication as a reader of a seqlock. -/
def Loader.view : Loader → Seqlock.Reader Nat
  | .idle => .idle
  | .looping since _ _ => .starting since
  | .loading since version before fields => .reading since version before.toNat fields

/-- The writer of the publication as the writer of a seqlock. -/
def Storer.view : Storer → Seqlock.Writer 6 Nat
  | .storing publication i => .writing publication.toWords i
  | _ => .idle

theorem StoredPublication.ofWords_toWords (p : StoredPublication) : ofWords (List.ofFn p.toWords) = p := rfl

namespace TargetPublicationStore

variable {ρ : Type} {m : TargetPublicationStore ρ}

/-- The store as a seqlock. -/
def view (m : TargetPublicationStore ρ) : Seqlock.State 6 ρ Nat where
  cells := m.fields
  seq := m.sequence.toNat
  writer := m.storer.view
  readers := Loader.view ∘ m.loaders
  payloads := m.payloads.map StoredPublication.toWords
  returns := m.returns

/-- What `Load` returned is one of the payloads that were current during the call, if fewer than 2^31 publications overlapped it. -/
def Untorn (m : TargetPublicationStore ρ) : Prop :=
  ∀ read ∈ m.returns, read.begun - read.since < 2 ^ 31 →
    ∃ version p, read.since ≤ version ∧ version ≤ read.upto ∧ m.payloads[version - 1]? = some p ∧
      StoredPublication.ofWords read.words = p

namespace ViewAux

theorem begun_eq (m : TargetPublicationStore ρ) : m.begun = m.view.payloads.length + m.view.writer.busy := by
  rw [begun, view, List.length_map]
  cases m.storer <;> rfl

variable [DecidableEq ρ]

/-- A reader that loads the fields has seen an even number. -/
def Sampled (m : TargetPublicationStore ρ) : Prop :=
  ∀ r since version before fields, m.loaders r = .loading since version before fields → isOdd before = false

theorem Sampled.moved (h : Sampled m) {m' : TargetPublicationStore ρ} {r : ρ} {loader : Loader}
    (hloaders : m'.loaders = Function.update m.loaders r loader)
    (heven : ∀ since version before fields, loader = .loading since version before fields → isOdd before = false) :
    Sampled m' := by
  intro r' since version before fields hr'
  rw [hloaders] at hr'
  by_cases hr : r' = r
  · subst hr
    rw [Function.update_self] at hr'
    exact heven since version before fields hr'
  · rw [Function.update_of_ne hr] at hr'
    exact h r' since version before fields hr'

theorem stepLoader_sampled (h : Sampled m) (r : ρ) : Sampled (m.stepLoader r) := by
  simp only [stepLoader]
  split
  next => exact h
  next since after publication hlooping =>
    split
    next hodd =>
      split
      · exact h
      · exact h.moved rfl nofun
    next heven =>
      refine h.moved rfl ?_
      rintro _ _ before _ ⟨⟩
      simpa using heven
  next since version before fields hloading =>
    split
    next hlt =>
      refine h.moved rfl ?_
      rintro _ _ _ _ ⟨⟩
      exact h r since version before fields hloading
    next hfull => split <;> exact h.moved rfl nofun

theorem step_sampled (h : Sampled m) (a : Act ρ) : Sampled (step m a) := by
  cases a with
  | store publication =>
    simp only [step]
    split <;> exact h
  | storer =>
    simp only [step, stepStorer]
    split
    · exact h
    · exact h
    · split <;> exact h
  | load r =>
    simp only [step]
    split
    · exact h.moved rfl nofun
    · exact h
  | loader r => exact stepLoader_sampled h r

theorem view_stepLoader (h : Sampled m) (r : ρ) :
    (m.stepLoader r).view = m.view ∨ ∃ act, (m.stepLoader r).view = Seqlock.step (2 ^ 32) m.view act := by
  simp only [stepLoader]
  split
  next => exact .inl rfl
  next since after publication hlooping =>
    split
    next hodd =>
      -- an odd number is either not the one before or odd, so the loop goes on
      have hagain : m.sequence ≠ after ∨ isOdd after = true := by
        by_cases heq : m.sequence = after
        · exact .inr (heq ▸ hodd)
        · exact .inl heq
      rw [if_pos hagain]
      exact .inl rfl
    next heven =>
      right
      rw [isOdd_iff, not_not] at heven
      refine ⟨.sample r, ?_⟩
      simp [view, Seqlock.step, Loader.view, hlooping, Function.comp_update, heven]
  next since version before fields hloading =>
    split
    next hlt =>
      right
      refine ⟨.load r, ?_⟩
      simp [view, Seqlock.step, Loader.view, hloading, Function.comp_update, hlt]
    next hfull =>
      right
      refine ⟨.check r, ?_⟩
      have heven := h r since version before fields hloading
      by_cases hsame : before = m.sequence
      · have hdone : ¬(before ≠ m.sequence ∨ isOdd m.sequence = true) := by
          rw [← hsame, heven]
          simp
        have hbegun := begun_eq m
        rw [if_neg hdone]
        simp only [view] at hbegun
        simp [view, Seqlock.step, Loader.view, returned, hloading, Function.comp_update, hfull, hsame, hbegun]
      · have hne : ¬m.sequence.toNat = before.toNat := fun heq => hsame (UInt32.toNat_inj.mp heq).symm
        rw [if_pos (.inl hsame)]
        simp [view, Seqlock.step, Loader.view, hloading, Function.comp_update, hfull, hne]

theorem view_step (h : Sampled m) (a : Act ρ) :
    (step m a).view = m.view ∨ ∃ act, (step m a).view = Seqlock.step (2 ^ 32) m.view act := by
  cases a with
  | store publication =>
    left
    simp only [step]
    split
    next hidle => simp [view, Storer.view, hidle]
    next => rfl
  | storer =>
    simp only [step, stepStorer]
    split
    next => exact .inl rfl
    next publication hcalled =>
      right
      refine ⟨.publish publication.toWords, ?_⟩
      simp [view, Storer.view, Seqlock.step, hcalled]
    next publication i hstoring =>
      right
      split
      next hi =>
        refine ⟨.store, ?_⟩
        simp [view, Storer.view, Seqlock.step, hstoring, hi]
      next hi =>
        refine ⟨.finish, ?_⟩
        simp [view, Storer.view, Seqlock.step, hstoring, hi]
  | load r =>
    simp only [step]
    split
    next hidle =>
      right
      refine ⟨.call r, ?_⟩
      simp [view, Seqlock.step, Loader.view, hidle, Function.comp_update]
    next => exact .inl rfl
  | loader r => exact view_stepLoader h r

omit [DecidableEq ρ] in
theorem untorn_of_inv {k : Nat} (h : Seqlock.Inv (2 ^ 32) k m.view) : m.Untorn := by
  intro read hread hfew
  obtain ⟨version, words, hsince, hupto, hp, hwords⟩ := h.returns read hread hfew
  obtain ⟨p, hcurrent, rfl⟩ : ∃ p, m.payloads[version - 1]? = some p ∧ p.toWords = words := by
    simpa only [view, List.getElem?_map, Option.map_eq_some_iff] using hp
  exact ⟨version, p, hsince, hupto, hcurrent, by rw [hwords, p.ofWords_toWords]⟩

theorem run_untorn (publication : StoredPublication) (generation : UInt32) (acts : List (Act ρ)) :
    (run step (init publication generation) acts).Untorn := by
  obtain ⟨heven, hseq⟩ := seq_init generation
  have hinit : Seqlock.Inv (2 ^ 32) ((2 * generation).toNat + (2 ^ 32 - 2))
      (init publication generation : TargetPublicationStore ρ).view := Seqlock.init_inv publication.toWords hseq
  have hsampled : Sampled (init publication generation : TargetPublicationStore ρ) := fun _ _ _ _ _ h => nomatch h
  exact untorn_of_inv
    (Seqlock.run_inv view Sampled (by decide) heven (fun m a hm => step_sampled hm a) (fun m a hm => view_step hm a) hsampled
      hinit acts)

end ViewAux

end TargetPublicationStore

/-- In every interleaving of the accesses of serialized writers and of any readers, of the configuration and of a target
publication, what a reader returns is one whole payload that was current during the call, if fewer than 2^31 publications overlap
the call. -/
theorem snapshots_untorn {ρ : Type} [DecidableEq ρ] :
    (∀ {C : Type} {words : Nat} (layout : Layout C words) (config : C) (generation : UInt32)
        (acts : List (ActiveConfig.Act C ρ)),
      (run (ActiveConfig.step layout) (ActiveConfig.init layout config generation) acts).Untorn layout) ∧
      ∀ (publication : StoredPublication) (generation : UInt32) (acts : List (TargetPublicationStore.Act ρ)),
        (run TargetPublicationStore.step (TargetPublicationStore.init publication generation) acts).Untorn :=
  ⟨ActiveConfig.ViewAux.run_untorn, TargetPublicationStore.ViewAux.run_untorn⟩

/-- The accesses of a reader that is overtaken by a writer after two fields, and then reads again. -/
def overtakenLoad : List (TargetPublicationStore.Act Unit) :=
  [.load (), .loader (), .loader (), .loader (), .store ⟨7, .window 3⟩] ++ List.replicate 8 .storer ++ List.replicate 13 (.loader ())

example :
    (run TargetPublicationStore.step (TargetPublicationStore.init {} 1) overtakenLoad).returns =
      [⟨List.ofFn (StoredPublication.toWords ⟨7, .window 3⟩), 1, 2, 2⟩] := by decide

end MarcoEngine
