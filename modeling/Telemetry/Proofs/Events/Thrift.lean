import Telemetry.Proofs.Events.Offered

/-!
# Events that are built in vain

To build an event is expensive, so an event is meant to be built only if it can be retained. For
ordinary events that is so. Synthetic ones are built first and offered afterwards: one that the
synthetic reservoir of its application rejects, and then the ordinary one, has been built in vain
(`Service.BuildsInVain`).

| event | synthetic reservoir | ordinary reservoir | built | |
|---|---|---|---|---|
| ordinary | | takes it | yes | retained |
| ordinary | | refuses it | no | a try is counted |
| synthetic | takes it | | yes | retained |
| synthetic | refuses it | takes it | yes | retained |
| synthetic | refuses it | refuses it | yes | **in vain** |

This is the only exception (`Run.retains_of_built_iff`). A reservoir refuses an event whose priority
is not finite, or for which there is no room as long as nothing of lower priority leaves
(`Sampling.Reservoir.Refuses`).
-/

namespace Telemetry.Events

open Sampling (HasPriority)

variable {E P S : Type}

namespace Service

/-! ### What a record is meant to do -/

/-- Whether events of an application are collected at all. -/
def Collects (s : Service E) (app : String) : Prop := s.isActive ∧ s.isCollected app

section Record

variable [HasPriority E]

/-- The kinds of reservoirs that an event gets to, once it is collected: a synthetic one gets to the
ordinary reservoir only if the synthetic one refuses it. -/
def Reaches (s : Service E) (app : String) (work : Work E) : Kind → Prop
  | .synthetic => work.isSynthetic
  | .ordinary => work.isSynthetic → (s.reservoirFor .synthetic app).Refuses work.event

/-- **A reservoir that an event is offered to.** -/
def OffersTo (s : Service E) (app : String) (work : Work E) (kind : Kind) : Prop :=
  s.Collects app ∧ s.Reaches app work kind

/-- **A record retains its event**: it is one of the entries of a reservoir that it has been offered
to. -/
def Retains (s s' : Service E) (app : String) (work : Work E) : Prop :=
  ∃ kind, s.OffersTo app work kind ∧
    (s.reservoirFor kind app).entryFor work.event ∈ (s'.reservoirFor kind app).entries

/-- **A record only counts tries**, in the reservoirs that it has offered its event to. -/
structure OnlyTries (app : String) (work : Work E) (s s' : Service E) : Prop where
  tried : ∀ {kind}, s.OffersTo app work kind →
    s'.reservoirFor kind app = (s.reservoirFor kind app).tried
  others : ∀ {kind app'}, ¬ (app' = app ∧ s.OffersTo app work kind) →
    s'.reservoirFor kind app' = s.reservoirFor kind app'
  confined : s.Confined app s'

/-- **An event is built in vain**: it is synthetic, and built before both reservoirs refuse it. -/
structure BuildsInVain (s : Service E) (app : String) (work : Work E) : Prop where
  collected : s.Collects app
  isSynthetic : work.isSynthetic
  refused : ∀ kind, (s.reservoirFor kind app).Refuses work.event

/-! ### What it does -/

variable {s s' : Service E} {app : String} {work : Work E} {aside : Multiset Ref}

theorem IsRegular.isArranged_reservoirFor (h : s.IsRegular) (kind : Kind) (app : String) :
    (s.reservoirFor kind app).IsArranged :=
  ((h.getOrCreate kind app) _).toIsArranged

/-- A live reservoir accepts what it does not refuse. -/
theorem Sound.fst_offerLive_eq (h : s.Sound aside) (hregular : s.IsRegular) (kind : Kind)
    (app : String) (event : E) :
    (¬ (s.reservoirFor kind app).Refuses event ∧ (s.offerLive kind app event).1 = .accepted) ∨
      ((s.reservoirFor kind app).Refuses event ∧ (s.offerLive kind app event).1 = .rejected event) := by
  have harranged := hregular.isArranged_reservoirFor kind app
  have hopen := h.isSealed_reservoirFor kind app
  rw [fst_offerLive]
  by_cases hrefuses : (s.reservoirFor kind app).Refuses event
  · rw [harranged.offer_of_refuses hopen hrefuses]
    exact .inr ⟨hrefuses, rfl⟩
  · exact .inl ⟨hrefuses, (harranged.offer_fst_eq_accepted_iff hopen event).2 hrefuses⟩

/-- **The ways of an event that has been built**: to one reservoir, or to both. -/
theorem Sound.offerBuilt_cases (h : s.Sound aside) (hregular : s.IsRegular) (app : String)
    (work : Work E) :
    let first := (s.offerLive .synthetic app work.event).2
    (work.isSynthetic = false ∧
      (s.offerBuilt app work).2 = (s.offerLive .ordinary app work.event).2) ∨
    (work.isSynthetic ∧ ¬ (s.reservoirFor .synthetic app).Refuses work.event ∧
      (s.offerBuilt app work).2 = first) ∨
    (work.isSynthetic ∧ (s.reservoirFor .synthetic app).Refuses work.event ∧
      (s.offerBuilt app work).2 = (first.offerLive .ordinary app work.event).2) := by
  intro first
  have hfirst := h.fst_offerLive_eq hregular .synthetic app work.event
  rw [offerBuilt]
  cases hkind : work.isSynthetic with
  | false => exact .inl ⟨rfl, rfl⟩
  | true =>
    rw [if_pos rfl]
    unfold first
    generalize s.offerLive .synthetic app work.event = result at hfirst ⊢
    obtain ⟨decision, s₁⟩ := result
    rcases hfirst with ⟨htakes, hdecision⟩ | ⟨hrefuses, hdecision⟩
    · obtain rfl : decision = .accepted := hdecision
      exact .inr (.inl ⟨rfl, htakes, rfl⟩)
    · obtain rfl : decision = .rejected work.event := hdecision
      exact .inr (.inr ⟨rfl, hrefuses, rfl⟩)

/-- **A built event is offered** to the reservoirs that it gets to, and nothing else changes. -/
theorem Sound.reservoirFor_offerBuilt (h : s.Sound aside) (hregular : s.IsRegular) (app : String)
    (work : Work E) [DecidablePred (s.Reaches app work)] (kind : Kind) (app' : String) :
    (s.offerBuilt app work).2.reservoirFor kind app' =
      if app' = app ∧ s.Reaches app work kind then offering work.event (s.reservoirFor kind app')
      else s.reservoirFor kind app' := by
  have hoffered := h.reservoirFor_offerLive
  have hordinary := (h.offerLive .synthetic app work.event).reservoirFor_offerLive .ordinary app
    work.event kind app'
  rcases h.offerBuilt_cases hregular app work with ⟨hkind, hbuilt⟩ | ⟨hkind, htakes, hbuilt⟩ |
    ⟨hkind, hrefuses, hbuilt⟩
  · rw [hbuilt]
    refine (hoffered .ordinary app work.event kind app').trans (if_congr ?_ rfl rfl)
    cases kind <;> simp [Reaches, hkind, eq_comm]
  · rw [hbuilt]
    refine (hoffered .synthetic app work.event kind app').trans (if_congr ?_ rfl rfl)
    cases kind <;> simp [Reaches, hkind, htakes, eq_comm]
  · rw [hbuilt]
    refine hordinary.trans ?_
    rw [hoffered .synthetic app work.event kind app']
    cases kind <;> simp [Reaches, hkind, hrefuses, eq_comm]

theorem Sound.confined_offerBuilt (h : s.Sound aside) (hregular : s.IsRegular) (app : String)
    (work : Work E) : s.Confined app (s.offerBuilt app work).2 := by
  rcases h.offerBuilt_cases hregular app work with ⟨-, hbuilt⟩ | ⟨-, -, hbuilt⟩ | ⟨-, -, hbuilt⟩
  · rw [hbuilt]
    exact s.confined_offerLive .ordinary app work.event
  · rw [hbuilt]
    exact s.confined_offerLive .synthetic app work.event
  · rw [hbuilt]
    exact (s.confined_offerLive .synthetic app work.event).trans
      (confined_offerLive _ .ordinary app work.event)

/-- **An event that is collected** is built and offered, by a service that has remembered that, and
shared the name of the event. -/
theorem IsCandid.exists_offerBuilt (hcandid : s.IsCandid) (hcollects : s.Collects app)
    (work : Work E) :
    ∃ s₁, s.SameReservoirs s₁ ∧ s.SameRules s₁ ∧
      (∀ kind app', s₁.reservoirFor kind app' = s.reservoirFor kind app') ∧
      s.recordPlainly app work = s₁.offerBuilt app work := by
  have hcollected : (s.askEnabled app).1 = true := (hcandid.fst_askEnabled app).trans hcollects.2
  have hasked := s.sameReservoirs_askEnabled app
  have hrules := s.sameRules_askEnabled app
  have hfor := s.reservoirFor_askEnabled app
  rw [recordPlainly, if_neg (by rw [hcollects.1]; exact Bool.false_ne_true)]
  generalize s.askEnabled app = result at hcollected hasked hrules hfor ⊢
  obtain ⟨enabled, s₁⟩ := result
  obtain rfl : enabled = true := hcollected
  have hshared := s₁.sameButNames_internAt s₁.namesVersion work.name
  exact ⟨_, hasked.trans hshared.toSameReservoirs, hrules.trans hshared.toSameSettings.sameRules,
    fun kind app' => (hshared.reservoirFor kind app').trans (hfor kind app'), rfl⟩

/-- **An event that is not collected** is not built, and if the application is not, it loses its
live ordinary reservoir. -/
theorem IsCandid.recordPlainly_of_not_collects (hcandid : s.IsCandid) (hnot : ¬ s.Collects app)
    (work : Work E) : (s.recordPlainly app work).1 = none ∧
      (if s.isActive then s.removeOrdinary app else s).SameReservoirs
        (s.recordPlainly app work).2 := by
  have hasked := s.sameReservoirs_askEnabled app
  have hcollected := hcandid.fst_askEnabled app
  rw [recordPlainly]
  cases hactive : s.isActive with
  | false => exact ⟨rfl, .refl s⟩
  | true =>
    have hdisabled : s.isCollected app = false :=
      Bool.eq_false_of_not_eq_true fun htrue => hnot ⟨hactive, htrue⟩
    rw [hdisabled] at hcollected
    generalize s.askEnabled app = result at hasked hcollected ⊢
    obtain ⟨enabled, s₁⟩ := result
    obtain rfl : enabled = false := hcollected
    exact ⟨rfl, hasked.pool, congrArg (·.remove .ordinary app) hasked.live, hasked.queue⟩

theorem reaches_congr {s₁ : Service E}
    (h : ∀ kind app', s₁.reservoirFor kind app' = s.reservoirFor kind app') (kind : Kind) :
    s₁.Reaches app work kind ↔ s.Reaches app work kind := by
  cases kind with
  | ordinary => rw [Reaches, Reaches, h]
  | synthetic => exact Iff.rfl

/-- **What becomes of the reservoirs** when an event is recorded that is collected. -/
theorem Sound.reservoirFor_recordPlainly (h : s.Sound aside) (hregular : s.IsRegular)
    (hcandid : s.IsCandid) (hcollects : s.Collects app) (work : Work E)
    [DecidablePred (s.Reaches app work)] (kind : Kind) (app' : String) :
    (s.recordPlainly app work).2.reservoirFor kind app' =
      if app' = app ∧ s.Reaches app work kind then offering work.event (s.reservoirFor kind app')
      else s.reservoirFor kind app' := by
  classical
  obtain ⟨s₁, hsame, -, hfor, hplain⟩ := hcandid.exists_offerBuilt hcollects work
  rw [hplain, (h.sameReservoirs hsame).reservoirFor_offerBuilt (hregular.of_pool_eq hsame.pool),
    hfor]
  exact if_congr (and_congr_right fun _ => reaches_congr hfor kind) rfl rfl

theorem Sound.confined_recordPlainly (h : s.Sound aside) (hregular : s.IsRegular)
    (hcandid : s.IsCandid) (hcollects : s.Collects app) (work : Work E) :
    s.Confined app (s.recordPlainly app work).2 := by
  obtain ⟨s₁, hsame, hrules, -, hplain⟩ := hcandid.exists_offerBuilt hcollects work
  rw [hplain]
  exact (hsame.confined hrules app).trans
    ((h.sameReservoirs hsame).confined_offerBuilt (hregular.of_pool_eq hsame.pool) app work)

/-- **Which ordinary events are built**: those that are collected and not refused. -/
theorem Sound.fst_recordPlainly_iff (h : s.Sound aside) (hregular : s.IsRegular)
    (hcandid : s.IsCandid) (hordinary : work.isSynthetic = false) :
    (s.recordPlainly app work).1 = some .accepted ↔
      s.Collects app ∧ ¬ (s.reservoirFor .ordinary app).Refuses work.event := by
  by_cases hcollects : s.Collects app
  · obtain ⟨s₁, hsame, -, hfor, hplain⟩ := hcandid.exists_offerBuilt hcollects work
    have hdecision := (h.sameReservoirs hsame).fst_offerLive_eq (hregular.of_pool_eq hsame.pool)
      .ordinary app work.event
    rw [hfor] at hdecision
    have hsome : (s.recordPlainly app work).1 =
        some (s₁.offerLive .ordinary app work.event).1 := by
      rw [hplain, offerBuilt, hordinary]
      rfl
    rw [hsome, and_iff_right hcollects]
    rcases hdecision with ⟨htakes, haccepted⟩ | ⟨hrefuses, hrejected⟩
    · exact iff_of_true (congrArg some haccepted) htakes
    · rw [hrejected]
      exact iff_of_false (by simp) (not_not_intro hrefuses)
  · rw [(hcandid.recordPlainly_of_not_collects hcollects work).1]
    exact iff_of_false (Option.some_ne_none _).symm fun hcon => hcollects hcon.1

/-! ### What is retained -/

/-- An event that is refused wherever it gets to is refused by the ordinary reservoir, and if it is
synthetic, by both. -/
theorem refuses_of_reaches
    (h : ∀ kind, s.Reaches app work kind → (s.reservoirFor kind app).Refuses work.event) :
    (s.reservoirFor .ordinary app).Refuses work.event ∧
      (work.isSynthetic → (s.reservoirFor .synthetic app).Refuses work.event) :=
  ⟨h .ordinary (h .synthetic), h .synthetic⟩

/-- **A record retains** what it collects and what not every reservoir refuses that it gets to. -/
theorem Sound.retains_iff (h : s.Sound aside) (hregular : s.IsRegular) (hcandid : s.IsCandid)
    (hsame : (s.recordPlainly app work).2.SameButNames s') :
    s.Retains s' app work ↔ s.Collects app ∧
      ∃ kind, s.Reaches app work kind ∧ ¬ (s.reservoirFor kind app).Refuses work.event := by
  classical
  have hmem : s.Collects app → ∀ {kind}, s.Reaches app work kind →
      ((s.reservoirFor kind app).entryFor work.event ∈ (s'.reservoirFor kind app).entries ↔
        ¬ (s.reservoirFor kind app).Refuses work.event) := by
    intro hcollects kind hreaches
    rw [hsame.reservoirFor, h.reservoirFor_recordPlainly hregular hcandid hcollects,
      if_pos ⟨rfl, hreaches⟩]
    exact (hregular.isArranged_reservoirFor kind app).entryFor_mem_offer_iff
      (h.isSealed_reservoirFor kind app) work.event
  constructor
  · rintro ⟨kind, ⟨hcollects, hreaches⟩, hjoined⟩
    exact ⟨hcollects, kind, hreaches, (hmem hcollects hreaches).1 hjoined⟩
  · rintro ⟨hcollects, kind, hreaches, htakes⟩
    exact ⟨kind, ⟨hcollects, hreaches⟩, (hmem hcollects hreaches).2 htakes⟩

/-- **What is not retained** is counted as a try. -/
theorem Sound.onlyTries (h : s.Sound aside) (hregular : s.IsRegular) (hcandid : s.IsCandid)
    (hsame : (s.recordPlainly app work).2.SameButNames s') (hcollects : s.Collects app)
    (hnot : ¬ s.Retains s' app work) : s.OnlyTries app work s' := by
  classical
  have hbecomes : ∀ kind app', s'.reservoirFor kind app' =
      if app' = app ∧ s.Reaches app work kind then offering work.event (s.reservoirFor kind app')
      else s.reservoirFor kind app' := fun kind app' => by
    rw [hsame.reservoirFor, h.reservoirFor_recordPlainly hregular hcandid hcollects]
  refine ⟨fun {kind} hoffers => ?_, fun {kind app'} hother => ?_, ?_⟩
  · have hrefuses : (s.reservoirFor kind app).Refuses work.event := by
      by_contra htakes
      exact hnot ((h.retains_iff hregular hcandid hsame).2 ⟨hcollects, kind, hoffers.2, htakes⟩)
    rw [hbecomes, if_pos ⟨rfl, hoffers.2⟩, offering,
      (hregular.isArranged_reservoirFor kind app).offer_of_refuses
        (h.isSealed_reservoirFor kind app) hrefuses]
  · rw [hbecomes, if_neg fun hcon => hother ⟨hcon.1, hcollects, hcon.2⟩]
  · exact (h.confined_recordPlainly hregular hcandid hcollects work).trans
      (hsame.toSameReservoirs.confined hsame.toSameSettings.sameRules app)

end Record

end Service

/-! ### Records of a service in use -/

namespace Run

section Thrift

variable [HasPriority E]

/-- **Which events are built**: those that are collected, unless they are ordinary and refused. -/
theorem Ends.record_builds {observer : Observer E P S} {p : Run E P S → Prop} {r : Run E P S}
    {aside : Multiset Ref} {app : String} (hbase : r.stack = [.steps []])
    (hs : r.service.Sound aside) (hregular : r.service.IsRegular) (hcandid : r.service.IsCandid)
    {work : Work E} {onPriority : List (List (Step E P))} (hturns : ∀ turn ∈ onPriority, turn = [])
    (hcarried : work.priority = HasPriority.priority work.event)
    (hp : ∀ (r' : Run E P S) (built : Bool),
      (r.service.recordPlainly app work).2.SameButNames r'.service → r'.answer = .built built →
      (built ↔ r.service.Collects app ∧ (work.isSynthetic ∨
        ¬ (r.service.reservoirFor .ordinary app).Refuses work.event)) → p r') :
    (r.record app work [] [] onPriority).Ends observer p := by
  refine .record hbase hs hturns hcarried rfl fun r' hsame hordinary hsynthetic => ?_
  cases hkind : work.isSynthetic with
  | true =>
    refine hp r' _ hsame (hsynthetic hkind) ?_
    rw [hcandid.fst_askEnabled, Bool.and_eq_true]
    exact (and_iff_left (.inl hkind)).symm
  | false =>
    refine hp r' _ hsame (hordinary hkind) ?_
    rw [decide_eq_true_iff, hs.fst_recordPlainly_iff hregular hcandid hkind, hkind]
    exact and_congr_right fun _ => (or_iff_right Bool.false_ne_true).symm

/-- **An event is built only if it is retained**, unless it is synthetic and both reservoirs refuse
it: then it is built in vain. An event that is retained has been built. If it is not retained, then
the record only counts tries, or nothing if the event is not collected. -/
theorem retains_of_built_iff {s : Service E} (hs : s.IsReached) (transport : Transport E Empty)
    (random : Random.Source) (app : String) {work : Work E}
    (hcarried : work.priority = HasPriority.priority work.event)
    {onPriority : List (List (Step E Empty))} (hturns : ∀ turn ∈ onPriority, turn = []) :
    let r := (calling s transport random).perform (.idle E) (.recordWith app work [] [] onPriority)
    r.stack = [] ∧ ∃ built, r.answer = .built built ∧
      ((built → s.Retains r.service app work) ↔ ¬ s.BuildsInVain app work) ∧
      (s.Retains r.service app work → built) ∧
      (s.Collects app → ¬ s.Retains r.service app work → s.OnlyTries app work r.service) ∧
      (¬ s.Collects app →
        (if s.isActive then s.removeOrdinary app else s).SameReservoirs r.service) := by
  have hproper := isProper_calling hs transport random
  have hsound := hproper.sound.service
  have hcandid := hs.isCandid
  have hends : (((calling s transport random).push (.steps [])).start (.idle E)
      (.recordWith app work [] [] onPriority)).Ends (.idle E) fun r =>
        ∃ built, (s.recordPlainly app work).2.SameButNames r.service ∧ r.answer = .built built ∧
          (built ↔ s.Collects app ∧ (work.isSynthetic ∨
            ¬ (s.reservoirFor .ordinary app).Refuses work.event)) :=
    .record_builds (r := (calling s transport random).push (.steps [])) rfl hsound hproper.regular
      hcandid hturns hcarried fun _ built hsame hanswer hbuilt => ⟨built, hsame, hanswer, hbuilt⟩
  obtain ⟨hstack, built, hsame, hanswer, hbuilt⟩ := hends.perform hproper
  have hretains := hsound.retains_iff hproper.regular hcandid hsame
  refine ⟨hstack, built, hanswer, ⟨fun hkept hvain => ?_, fun hnot hb => ?_⟩, fun hkept => ?_,
    hsound.onlyTries hproper.regular hcandid hsame, fun hnot => ?_⟩
  · have hb := hbuilt.2 ⟨hvain.collected, .inl hvain.isSynthetic⟩
    obtain ⟨-, kind, -, htakes⟩ := hretains.1 (hkept hb)
    exact htakes (hvain.refused kind)
  · obtain ⟨hcollects, hway⟩ := hbuilt.1 hb
    refine hretains.2 ⟨hcollects, ?_⟩
    by_contra hnone
    push Not at hnone
    obtain ⟨hordinary, hsynthetic⟩ := Service.refuses_of_reaches hnone
    rcases hway with hkind | htakes
    · exact hnot ⟨hcollects, hkind, fun kind => kind.casesOn hordinary (hsynthetic hkind)⟩
    · exact htakes hordinary
  · obtain ⟨hcollects, kind, hreaches, htakes⟩ := hretains.1 hkept
    refine hbuilt.2 ⟨hcollects, ?_⟩
    cases kind with
    | ordinary => exact .inr htakes
    | synthetic => exact .inl hreaches
  · exact (hcandid.recordPlainly_of_not_collects hnot work).2.trans hsame.toSameReservoirs

end Thrift

open Simulation (Event) in
/-- A transaction of synthetic monitoring. -/
def probing (name : String) (priority : Float) : Work Event :=
  { transaction name priority with event := ⟨name, 1, priority, true⟩, isSynthetic := true }

open Simulation (Event) in
/-- A service in which both reservoirs of an application have room for one event, which is
taken. -/
def narrowService : Service Event :=
  ((fresh { transactionEvents := { maxSamplesStored := 1 }
            harvest := { synthetics := { maxEventsPerApp := 1 } } } {}
    [.recordWith "a" (probing "a" 0.75) [] [] [], .record "a" (transaction "b" 0.5) [] []]
    (.ofSeed 0)).advance (.idle _) 30).service

open Simulation (Event) in
/-- What has a new sequence number has not been there. -/
theorem not_retains_of_seq {s s' : Service Event} {app : String} {work : Work Event}
    (h : ∀ kind, (s.reservoirFor kind app).nextSeq ∉
      (s'.reservoirFor kind app).entries.map (·.seq)) : ¬ s.Retains s' app work := by
  rintro ⟨kind, -, hjoined⟩
  exact h kind (List.mem_map_of_mem hjoined)

open Simulation (Event) in
/-- An ordinary event of lower priority is not built there, but counted. -/
theorem retains_of_built_iff_narrowService :
    let r := (calling narrowService {} (.ofSeed 0)).perform (.idle Event)
      (.recordWith "a" (transaction "c" 0.25) [] [] [])
    r.answer = .built false ∧ narrowService.OnlyTries "a" (transaction "c" 0.25) r.service := by
  intro r
  have hreached : narrowService.IsReached := ⟨_, _, _, _, 30, rfl⟩
  have hcarried : (transaction "c" 0.25).priority =
    HasPriority.priority (transaction "c" 0.25).event := rfl
  have hnone : ∀ turn ∈ ([] : List (List (Step Event Empty))), turn = [] := nofun
  obtain ⟨-, built, hanswer, hthrifty, -, htries, -⟩ :=
    retains_of_built_iff hreached {} (.ofSeed 0) "a" hcarried hnone
  have hlost : ¬ narrowService.Retains r.service "a" (transaction "c" 0.25) :=
    not_retains_of_seq fun kind => by cases kind <;> decide +kernel
  have hordinary : ¬ narrowService.BuildsInVain "a" (transaction "c" 0.25) :=
    fun hvain => Bool.false_ne_true hvain.isSynthetic
  have hbuilt : built = false :=
    Bool.eq_false_of_not_eq_true fun hb => hlost (hthrifty.2 hordinary hb)
  exact ⟨hbuilt ▸ hanswer, htries ⟨by decide +kernel, by decide +kernel⟩ hlost⟩

open Simulation (Event) in
/-- **A synthetic event is built in vain**: both reservoirs refuse it. -/
theorem not_retains_narrowService :
    let r := (calling narrowService {} (.ofSeed 0)).perform (.idle Event)
      (.recordWith "a" (probing "c" 0.25) [] [] [])
    r.answer = .built true ∧ ¬ narrowService.Retains r.service "a" (probing "c" 0.25) := by
  refine ⟨by decide +kernel, not_retains_of_seq fun kind => ?_⟩
  cases kind <;> decide +kernel

end Run

end Telemetry.Events
