import MarcoEngine.Lib.RingBuffer
import MarcoEngine.RoutedInputQueue

/-!
# Delivery of routed events

Accepted events come out in order, each once, and no wake is lost. The invariant ties the ring to its history and each thread's
loaded values to the counters, and it says who will see to a wake while the flag is set or the queue is not empty.
-/

namespace MarcoEngine

open RingBuffer Runs

namespace Consumer

/-- The message thread will still look whether the queue is empty before it leaves the drain with the flag cleared. -/
def early {T : Type} : Consumer T → Bool
  | .idle | .reclosing | .resizing _ | .rearming | .posting => false
  | _ => true

/-- The message thread has seen, or is about to see, an event that is still in the queue. -/
def closes {T : Type} (tail : UInt64) : Consumer T → Prop
  | .resizing head => head ≠ tail
  | .idle => False
  | _ => True

theorem closes_of_early {T : Type} {tail : UInt64} {pc : Consumer T} (h : pc.early = true) : pc.closes tail := by
  cases pc <;> simp_all [early, closes]

end Consumer

namespace RoutedChannel

variable {T : Type} {capacity maxEvents : Nat} {m : RoutedChannel T}

/-! ## The invariant -/

/-- What the hook knows between two of its accesses. -/
def ProducerKnows (capacity : Nat) (m : RoutedChannel T) : Prop :=
  match m.producer with
  | .loaded _ head => head = m.queue.head
  | .checked _ head => head = m.queue.head ∧ m.accepted.length < m.popped.length + capacity
  | .written value head =>
    head = m.queue.head ∧ m.accepted.length < m.popped.length + capacity ∧
      m.queue.entries (RoutedInputQueue.index capacity head) = value
  | _ => True

/-- What the message thread knows between two of its accesses. -/
def ConsumerKnows (m : RoutedChannel T) : Prop :=
  match m.consumer with
  | .tailed _ tail => tail = m.queue.tail
  | .found _ tail => tail = m.queue.tail ∧ m.popped.length < m.accepted.length
  | .read _ tail value => tail = m.queue.tail ∧ ∃ h : m.popped.length < m.accepted.length, m.accepted[m.popped.length] = value
  | _ => True

/-- The ring agrees with its history, as do the threads; while the flag is set somebody sees to a wake, and so it is while the
queue is not empty. -/
structure Delivers (capacity : Nat) (m : RoutedChannel T) : Prop where
  holds : Holds (2 ^ 64) capacity m.queue.entries m.queue.head.toNat m.queue.tail.toNat m.accepted m.popped
  producer : ProducerKnows capacity m
  consumer : ConsumerKnows m
  flagged : m.pending = true → 0 < m.wakes ∨ m.producer = .posting ∨ m.consumer.early = true ∨ m.consumer = .posting
  woken : m.accepted ≠ m.popped → 0 < m.wakes ∨ m.producer.betweenPushAndPost = true ∨ m.consumer.closes m.queue.tail

theorem init_delivers (entries : Nat → T) : Delivers capacity (init entries) where
  holds := Holds.empty entries
  producer := trivial
  consumer := trivial
  flagged := nofun
  woken := fun h => absurd rfl h

/-! ## The counters -/

/-- The size a thread computes from current counters is the number of events. -/
theorem sizeOf_eq (h : Delivers capacity m) (hcap : capacity < 2 ^ 64) :
    RoutedInputQueue.sizeOf m.queue.head m.queue.tail = m.accepted.length - m.popped.length := by
  rw [RoutedInputQueue.sizeOf, UInt64.toNat_sub, h.holds.distance_eq hcap]

theorem tail_eq_head_iff (h : Delivers capacity m) (hcap : capacity < 2 ^ 64) :
    m.queue.tail = m.queue.head ↔ m.accepted = m.popped := by
  rw [← UInt64.toNat_inj, h.holds.eq_iff hcap]

theorem sizeOf_eq_zero_iff (head tail : UInt64) : RoutedInputQueue.sizeOf head tail = 0 ↔ head = tail := by
  rw [RoutedInputQueue.sizeOf, ← UInt64.toNat_zero, UInt64.toNat_inj]
  constructor
  · intro h
    rw [← UInt64.sub_add_cancel head tail, h, UInt64.zero_add]
  · rintro rfl
    exact UInt64.sub_self head

theorem toNat_succ (counter : UInt64) : (counter + 1).toNat = (counter.toNat + 1) % 2 ^ 64 :=
  UInt64.toNat_add counter 1

/-! ## The hook -/

/-- What the message thread knows stays true while the hook writes entries and counts them. -/
theorem ConsumerKnows.frame {m' : RoutedChannel T} (h : ConsumerKnows m) (hconsumer : m'.consumer = m.consumer)
    (htail : m'.queue.tail = m.queue.tail) (hpopped : m'.popped = m.popped) (hpre : m.accepted <+: m'.accepted) :
    ConsumerKnows m' := by
  have hle := hpre.length_le
  unfold ConsumerKnows at h ⊢
  rw [hconsumer, htail, hpopped]
  split at h
  · exact h
  · exact ⟨h.1, h.2.trans_le hle⟩
  · obtain ⟨ht, hlt, hval⟩ := h
    refine ⟨ht, hlt.trans_le hle, ?_⟩
    rw [← hval]
    exact (hpre.getElem hlt).symm
  · trivial

theorem stepProducer_delivers (h : Delivers capacity m) (hcap : capacity < 2 ^ 64) (hdvd : capacity ∣ 2 ^ 64) :
    Delivers capacity (stepProducer capacity m) := by
  obtain ⟨hholds, hproducer, hconsumer, hflagged, hwoken⟩ := id h
  unfold stepProducer
  unfold ProducerKnows at hproducer
  split
  case h_1 => exact h
  case h_2 value head hpc =>
    rw [hpc] at hproducer hflagged hwoken
    have hsize : RoutedInputQueue.sizeOf head m.queue.tail = m.accepted.length - m.popped.length := by
      rw [hproducer]
      exact sizeOf_eq h hcap
    have hle := hholds.length_le
    split
    · exact ⟨hholds, trivial, hconsumer, by simpa using hflagged, by simpa [Producer.betweenPushAndPost] using hwoken⟩
    · refine ⟨hholds, ⟨hproducer, ?_⟩, hconsumer, by simpa using hflagged, by simpa [Producer.betweenPushAndPost] using hwoken⟩
      simp only
      omega
  case h_3 value head hpc =>
    rw [hpc] at hproducer hflagged hwoken
    obtain ⟨rfl, hroom⟩ := hproducer
    refine ⟨hholds.write hdvd hroom value, ⟨rfl, hroom, Function.update_self _ _ _⟩,
      hconsumer.frame rfl rfl rfl List.prefix_rfl, by simpa using hflagged, ?_⟩
    simpa [Producer.betweenPushAndPost] using hwoken
  case h_4 value head hpc =>
    rw [hpc] at hproducer
    obtain ⟨rfl, hroom, hcell⟩ := hproducer
    refine ⟨?_, trivial, hconsumer.frame rfl rfl rfl (List.prefix_append _ _), ?_, fun _ => Or.inr (Or.inl rfl)⟩
    · rw [toNat_succ]
      exact hholds.push hdvd hroom hcell
    · intro hset
      simpa [hpc] using hflagged hset
  case h_5 hpc =>
    -- the flag tells whether the post is the hook's own
    by_cases hset : m.pending
    · refine ⟨hholds, ?_, hconsumer, ?_, ?_⟩
      · simp [ProducerKnows, hset]
      · intro _
        simpa [hpc, hset] using hflagged hset
      · intro _
        rcases hflagged hset with hw | hp | he | hp
        · exact Or.inl hw
        · exact absurd (hpc.symm.trans hp) nofun
        · exact Or.inr (Or.inr (Consumer.closes_of_early he))
        · exact Or.inr (Or.inr (by simp [hp, Consumer.closes]))
    · refine ⟨hholds, ?_, hconsumer, ?_, ?_⟩
      · simp [ProducerKnows, hset]
      · intro _
        simp [hset]
      · intro _
        simp [hset, Producer.betweenPushAndPost]
  case h_6 hpc =>
    exact ⟨hholds, trivial, hconsumer, fun _ => Or.inl (Nat.succ_pos _), fun _ => Or.inl (Nat.succ_pos _)⟩

/-! ## The message thread -/

/-- What the hook knows stays true while the message thread counts events as popped. -/
theorem ProducerKnows.frame {m' : RoutedChannel T} (h : ProducerKnows capacity m) (hproducer : m'.producer = m.producer)
    (hhead : m'.queue.head = m.queue.head) (hentries : m'.queue.entries = m.queue.entries) (haccepted : m'.accepted = m.accepted)
    (hpopped : m.popped.length ≤ m'.popped.length) : ProducerKnows capacity m' := by
  unfold ProducerKnows at h ⊢
  rw [hproducer, hhead, hentries, haccepted]
  split at h
  · exact h
  · exact ⟨h.1, h.2.trans_le (Nat.add_le_add_right hpopped _)⟩
  · exact ⟨h.1, h.2.1.trans_le (Nat.add_le_add_right hpopped _), h.2.2⟩
  · trivial

theorem stepConsumer_delivers (h : Delivers capacity m) (hcap : capacity < 2 ^ 64) (hdvd : capacity ∣ 2 ^ 64) (late : Bool) :
    Delivers capacity (stepConsumer capacity maxEvents late m) := by
  obtain ⟨hholds, hproducer, hconsumer, hflagged, hwoken⟩ := id h
  have hframe : ∀ pc, ProducerKnows capacity { m with consumer := pc } :=
    fun pc => hproducer.frame rfl rfl rfl rfl le_rfl
  -- until the flag is cleared, the drain itself sees to the wake
  have hearly : ∀ pc : Consumer T, pc.early = true → ConsumerKnows { m with consumer := pc } →
      Delivers capacity { m with consumer := pc } := fun pc he hk =>
    ⟨hholds, hframe pc, hk, fun _ => Or.inr (Or.inr (Or.inl he)), fun _ => Or.inr (Or.inr (Consumer.closes_of_early he))⟩
  unfold stepConsumer
  unfold ConsumerKnows at hconsumer
  split
  case h_1 => exact h
  case h_2 drained hpc =>
    refine hearly _ ?_ ?_
    · split <;> rfl
    · by_cases hlt : drained < maxEvents <;> simp [ConsumerKnows, hlt]
  case h_3 drained tail hpc =>
    rw [hpc] at hconsumer
    have hle := hholds.length_le
    refine hearly _ ?_ ?_
    · split <;> rfl
    · by_cases heq : tail = m.queue.head
      · simp [ConsumerKnows, heq]
      · have hne : m.accepted ≠ m.popped := by
          rw [ne_eq, ← tail_eq_head_iff h hcap, ← hconsumer]
          exact heq
        have hlen : m.accepted.length ≠ m.popped.length := fun hlen => hne (hholds.order.eq_of_length hlen.symm).symm
        simp only [ConsumerKnows, heq, if_false]
        exact ⟨hconsumer, by omega⟩
  case h_4 drained tail hpc =>
    rw [hpc] at hconsumer
    obtain ⟨rfl, hlt⟩ := hconsumer
    exact hearly _ rfl ⟨rfl, hlt, (hholds.read hdvd hlt).symm⟩
  case h_5 drained tail value hpc =>
    rw [hpc] at hconsumer
    obtain ⟨rfl, hlt, rfl⟩ := hconsumer
    refine ⟨?_, hproducer.frame rfl rfl rfl rfl (by simp), trivial, fun _ => Or.inr (Or.inr (Or.inl rfl)),
      fun _ => Or.inr (Or.inr trivial)⟩
    rw [toNat_succ]
    exact hholds.pop hlt
  case h_6 drained value hpc =>
    refine hearly _ ?_ ?_
    · split <;> rfl
    · cases late <;> trivial
  case h_7 hpc => exact hearly _ rfl trivial
  case h_8 head hpc =>
    by_cases hsize : RoutedInputQueue.sizeOf head m.queue.tail ≠ 0
    · rw [if_pos hsize]
      exact ⟨hholds, hframe _, trivial, fun _ => by simp, fun _ => Or.inr (Or.inr trivial)⟩
    · rw [if_neg hsize]
      exact hearly _ rfl trivial
  case h_9 hpc =>
    exact ⟨hholds, hproducer.frame rfl rfl rfl rfl le_rfl, trivial, nofun, fun _ => Or.inr (Or.inr trivial)⟩
  case h_10 hpc =>
    rw [hpc] at hflagged
    refine ⟨hholds, hframe _, trivial, by simpa [Consumer.early] using hflagged, fun hne => Or.inr (Or.inr ?_)⟩
    -- the head loaded here is past the tail if anything is in the queue
    rw [ne_eq, ← tail_eq_head_iff h hcap] at hne
    exact fun heq => hne heq.symm
  case h_11 head hpc =>
    rw [hpc] at hflagged hwoken
    by_cases hsize : RoutedInputQueue.sizeOf head m.queue.tail = 0
    · rw [if_pos hsize]
      rw [sizeOf_eq_zero_iff] at hsize
      exact ⟨hholds, hframe _, trivial, by simpa [Consumer.early] using hflagged,
        by simpa [Consumer.closes, hsize] using hwoken⟩
    · rw [if_neg hsize]
      exact ⟨hholds, hframe _, trivial, by simpa [Consumer.early] using hflagged, fun _ => Or.inr (Or.inr trivial)⟩
  case h_12 hpc =>
    rw [hpc] at hflagged
    by_cases hset : m.pending
    · have hposts : 0 < m.wakes ∨ m.producer = .posting := by simpa [Consumer.early] using hflagged hset
      refine ⟨hholds, hproducer.frame rfl rfl rfl rfl le_rfl, by simp [ConsumerKnows, hset], fun _ => ?_, fun _ => ?_⟩
      · exact hposts.imp_right Or.inl
      · exact hposts.imp_right fun hp => Or.inl (by simp [hp, Producer.betweenPushAndPost])
    · refine ⟨hholds, hproducer.frame rfl rfl rfl rfl le_rfl, by simp [ConsumerKnows, hset], fun _ => ?_, fun _ => ?_⟩
      · simp [hset]
      · simp [hset, Consumer.closes]
  case h_13 hpc =>
    exact ⟨hholds, hproducer.frame rfl rfl rfl rfl le_rfl, trivial, fun _ => Or.inl (Nat.succ_pos _),
      fun _ => Or.inl (Nat.succ_pos _)⟩

/-! ## Runs -/

theorem step_delivers (h : Delivers capacity m) (hcap : capacity < 2 ^ 64) (hdvd : capacity ∣ 2 ^ 64) (act : Act T) :
    Delivers capacity (step capacity maxEvents m act) := by
  obtain ⟨hholds, hproducer, hconsumer, hflagged, hwoken⟩ := id h
  have hdrain : ∀ wakes, Delivers capacity { m with wakes, consumer := .popping 0 } := fun wakes =>
    ⟨hholds, hproducer.frame rfl rfl rfl rfl le_rfl, trivial, fun _ => Or.inr (Or.inr (Or.inl rfl)),
      fun _ => Or.inr (Or.inr trivial)⟩
  cases act with
  | push value =>
    simp only [step]
    split
    case h_1 hpc =>
      rw [hpc] at hflagged hwoken
      exact ⟨hholds, rfl, hconsumer.frame rfl rfl rfl List.prefix_rfl, by simpa using hflagged,
        by simpa [Producer.betweenPushAndPost] using hwoken⟩
    case h_2 => exact h
  | producer => exact stepProducer_delivers h hcap hdvd
  | wake =>
    simp only [step]
    split
    · exact hdrain _
    · exact h
  | drain =>
    simp only [step]
    split
    · exact hdrain _
    · exact h
  | consumer late => exact stepConsumer_delivers h hcap hdvd late

theorem run_delivers (hcap : capacity < 2 ^ 64) (hdvd : capacity ∣ 2 ^ 64) (entries : Nat → T) (acts : List (Act T)) :
    Delivers capacity (run (step capacity maxEvents) (init entries) acts) :=
  run_invariant (Delivers capacity) (fun _ act h => step_delivers h hcap hdvd act) (init_delivers entries) acts

/-- What is accepted and not yet popped is in the queue, in order. -/
theorem Delivers.accepted_eq (h : Delivers capacity m) (hcap : capacity < 2 ^ 64) (hdvd : capacity ∣ 2 ^ 64) :
    m.accepted = m.popped ++ m.queue.contents capacity := by
  rw [RoutedInputQueue.contents, sizeOf_eq h hcap]
  exact h.holds.contents hdvd

/-- After every interleaving: the popped events are the oldest accepted ones, in order and each once, and the others are in the
queue; the queue holds at most its capacity; and if it is not empty, no drain runs and no push is before its post, then a wake is
outstanding. -/
theorem routed_delivery (entries : Nat → T) (acts : List (Act T)) :
    let m := run (step kRoutedEventCapacity kMaxRoutedEventsPerPass) (init entries) acts
    m.accepted = m.popped ++ m.queue.contents kRoutedEventCapacity ∧
      (m.queue.contents kRoutedEventCapacity).length ≤ kRoutedEventCapacity ∧
      (m.queue.contents kRoutedEventCapacity ≠ [] → m.consumer.draining = false → m.producer.betweenPushAndPost = false →
        0 < m.wakes) := by
  intro m
  have hcap : kRoutedEventCapacity < 2 ^ 64 := by decide
  have hdvd : kRoutedEventCapacity ∣ 2 ^ 64 := by decide
  have h : Delivers kRoutedEventCapacity m := run_delivers hcap hdvd entries acts
  have haccepted := h.accepted_eq hcap hdvd
  refine ⟨haccepted, ?_, ?_⟩
  · have hbound := h.holds.bound
    rw [haccepted, List.length_append] at hbound
    omega
  · intro hne hidle hposted
    have hdiff : m.accepted ≠ m.popped := by
      rw [haccepted]
      simpa using hne
    rcases h.woken hdiff with hw | hp | hc
    · exact hw
    · exact absurd (hposted.symm.trans hp) nofun
    · cases hpc : m.consumer <;> simp_all [Consumer.draining, Consumer.closes]

end RoutedChannel

end MarcoEngine
