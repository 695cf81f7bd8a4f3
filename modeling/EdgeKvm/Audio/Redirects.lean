import EdgeKvm.Audio.Routing

/-!
# Redirects that nest

What the redirects of two sinks are to each other: the default sink, the loaded sinks and, for each
of them, a record of what was the default before. `Redirects.Sound` says that undoing the redirects
in any order leads back home. It takes two sinks: with a third, a redirect could be undone to one
whose own way back is gone.
-/

namespace EdgeKvm.Audio

/-- The sink whose redirects nest with those of this one. -/
def VirtualSink.other : VirtualSink → VirtualSink
  | .remote => .phone
  | .phone => .remote

@[simp] theorem VirtualSink.other_ne (v : VirtualSink) : v.other ≠ v := by cases v <;> decide

theorem VirtualSink.eq_or_other (v w : VirtualSink) : w = v ∨ w = v.other := by
  cases v <;> cases w <;> decide

@[simp] theorem VirtualSink.other_other (v : VirtualSink) : v.other.other = v := by
  cases v <;> rfl

/-- What the redirects come down to. -/
structure Redirects where
  defaultSink : Sink
  modules : List (Nat × VirtualSink)
  nextModule : Nat
  record : VirtualSink → Option RoutingJournal

namespace Redirects

variable {home : String} {d : Redirects} {v : VirtualSink} {journal : RoutingJournal}

def Loaded (d : Redirects) (v : VirtualSink) : Prop := ∃ id, (id, v) ∈ d.modules

/-- Every way back from the default sink leads home. -/
structure Sound (home : String) (d : Redirects) : Prop where
  known : ∀ id v, (id, v) ∈ d.modules → ∃ journal, d.record v = some journal ∧ journal.moduleId = id
  own : ∀ v w journal, d.record v = some journal → (journal.moduleId, w) ∈ d.modules → w = v
  numbered : ∀ v journal, d.record v = some journal → journal.moduleId < d.nextModule
  default : d.defaultSink = .device home ∨ ∃ v, d.Loaded v ∧ d.defaultSink = .virtual v
  previous : ∀ v journal, d.record v = some journal →
    journal.previousSink = .device home ∨ journal.previousSink = .virtual v.other
  apart : ∀ v journal back, d.record v = some journal → d.record v.other = some back →
    journal.previousSink = .virtual v.other → back.previousSink ≠ .virtual v
  nested : ∀ v journal, d.defaultSink = .virtual v → d.record v = some journal →
    journal.previousSink = .virtual v.other → d.Loaded v.other

/-- The default sink does not depend on `v` any more. -/
def Away (d : Redirects) (v : VirtualSink) : Prop :=
  d.defaultSink ≠ .virtual v ∧
    ∀ back, d.defaultSink = .virtual v.other → d.record v.other = some back →
      back.previousSink ≠ .virtual v

theorem Sound.loaded_of_default (sound : d.Sound home) (default : d.defaultSink = .virtual v) :
    d.Loaded v := by
  rcases sound.default with device | ⟨w, loaded, same⟩
  · rw [default] at device
    cases device
  · rw [default] at same
    cases same
    exact loaded

theorem Sound.not_loaded (sound : d.Sound home) (absent : d.record v = none) : ¬ d.Loaded v := by
  rintro ⟨id, member⟩
  obtain ⟨journal, known, -⟩ := sound.known id v member
  rw [absent] at known
  cases known

/-- Without records nothing is redirected. -/
theorem Sound.undone (sound : d.Sound home) (absent : ∀ v, d.record v = none) :
    d.defaultSink = .device home ∧ d.modules = [] := by
  have unloaded : ∀ v, ¬ d.Loaded v := fun v => sound.not_loaded (absent v)
  refine ⟨?_, List.eq_nil_iff_forall_not_mem.mpr ?_⟩
  · rcases sound.default with device | ⟨v, loaded, -⟩
    · exact device
    · exact absurd loaded (unloaded v)
  · rintro ⟨id, v⟩ member
    exact unloaded v ⟨id, member⟩

/-! ## The operations -/

/-- The default sink goes back to the one before. -/
def goBack (d : Redirects) (journal : RoutingJournal) : Redirects :=
  { d with defaultSink := journal.previousSink }

theorem Sound.goBack (sound : d.Sound home) (recorded : d.record v = some journal)
    (there : journal.previousSink = .virtual v.other → d.Loaded v.other) :
    (d.goBack journal).Sound home ∧ (d.goBack journal).Away v := by
  refine ⟨⟨sound.known, sound.own, sound.numbered, ?_, sound.previous, sound.apart, ?_⟩, ?_, ?_⟩
  · rcases sound.previous v journal recorded with device | back
    · exact .inl device
    · exact .inr ⟨v.other, there back, back⟩
  · intro w back default known previous
    rcases sound.previous v journal recorded with device | nested
    · cases device.symm.trans default
    · cases nested.symm.trans default
      rw [VirtualSink.other_other] at previous
      exact absurd previous (sound.apart v journal back recorded known nested)
  · intro default
    rcases sound.previous v journal recorded with device | nested
    · cases device.symm.trans default
    · exact absurd (Sink.virtual.inj (nested.symm.trans default)) v.other_ne
  · exact fun back default known => sound.apart v journal back recorded known default

/-- A sink whose predecessor is gone is not the default. -/
theorem Sound.away (sound : d.Sound home) (recorded : d.record v = some journal)
    (previous : journal.previousSink = .virtual v.other) (gone : ¬ d.Loaded v.other) :
    d.Away v := by
  refine ⟨fun default => ?_, fun back default => ?_⟩
  · exact gone (sound.nested v journal default recorded previous)
  · exact absurd (sound.loaded_of_default default) gone

/-- A module is unloaded. -/
def unload (d : Redirects) (id : Nat) : Redirects :=
  { d with modules := d.modules.filter (·.1 ≠ id) }

theorem mem_unload {id other : Nat} :
    (other, v) ∈ (d.unload id).modules ↔ (other, v) ∈ d.modules ∧ other ≠ id := by
  simp [unload]

theorem Sound.loaded_unload {w : VirtualSink} (sound : d.Sound home)
    (recorded : d.record v = some journal) (other : w ≠ v) (loaded : d.Loaded w) :
    (d.unload journal.moduleId).Loaded w := by
  obtain ⟨id, member⟩ := loaded
  refine ⟨id, mem_unload.mpr ⟨member, ?_⟩⟩
  rintro rfl
  exact other (sound.own v w journal recorded member)

theorem Sound.unload (sound : d.Sound home) (recorded : d.record v = some journal)
    (away : d.Away v) :
    (d.unload journal.moduleId).Sound home ∧ ¬ (d.unload journal.moduleId).Loaded v := by
  obtain ⟨elsewhere, apart⟩ := away
  refine ⟨⟨?_, ?_, sound.numbered, ?_, sound.previous, sound.apart, ?_⟩, ?_⟩
  · exact fun id w member => sound.known id w (mem_unload.mp member).1
  · exact fun w u back known member => sound.own w u back known (mem_unload.mp member).1
  · rcases sound.default with device | ⟨w, loaded, same⟩
    · exact .inl device
    · have other : w ≠ v := by
        rintro rfl
        exact elsewhere same
      exact .inr ⟨w, sound.loaded_unload recorded other loaded, same⟩
  · intro w back default known previous
    rcases v.eq_or_other w with rfl | rfl
    · exact absurd default elsewhere
    · rw [VirtualSink.other_other] at previous
      exact absurd previous (apart back default known)
  · rintro ⟨id, member⟩
    obtain ⟨inside, other⟩ := mem_unload.mp member
    obtain ⟨back, known, same⟩ := sound.known id v inside
    cases recorded.symm.trans known
    exact other same.symm

/-- The record of a sink that is not loaded is dropped. -/
def forget (d : Redirects) (v : VirtualSink) : Redirects :=
  { d with record := Function.update d.record v none }

theorem record_forget {w : VirtualSink} {back : RoutingJournal} :
    (d.forget v).record w = some back ↔ w ≠ v ∧ d.record w = some back := by
  by_cases same : w = v
  · subst same
    simp [forget]
  · simp [forget, same]

theorem Sound.forget (sound : d.Sound home) (unloaded : ¬ d.Loaded v) :
    (d.forget v).Sound home := by
  refine ⟨?_, ?_, ?_, sound.default, ?_, ?_, ?_⟩
  · intro id w member
    obtain ⟨back, known, same⟩ := sound.known id w member
    refine ⟨back, record_forget.mpr ⟨?_, known⟩, same⟩
    rintro rfl
    exact unloaded ⟨id, member⟩
  · exact fun w u back known => sound.own w u back (record_forget.mp known).2
  · exact fun w back known => sound.numbered w back (record_forget.mp known).2
  · exact fun w back known => sound.previous w back (record_forget.mp known).2
  · exact fun w back other known known' =>
      sound.apart w back other (record_forget.mp known).2 (record_forget.mp known').2
  · exact fun w back default known => sound.nested w back default (record_forget.mp known).2

/-- A module is loaded for a sink without a record. -/
def load (d : Redirects) (v : VirtualSink) : Redirects :=
  { d with
    modules := (d.nextModule, v) :: d.modules
    nextModule := d.nextModule + 1
    record := Function.update d.record v
      (some { previousSink := d.defaultSink, moduleId := d.nextModule }) }

theorem Loaded.load {w : VirtualSink} (loaded : d.Loaded w) : (d.load v).Loaded w := by
  obtain ⟨id, member⟩ := loaded
  exact ⟨id, List.mem_cons_of_mem _ member⟩

theorem record_load : (d.load v).record v =
    some { previousSink := d.defaultSink, moduleId := d.nextModule } := by
  simp [load]

theorem record_load_other {w : VirtualSink} (other : w ≠ v) :
    (d.load v).record w = d.record w := by
  simp [load, other]

theorem Sound.load (sound : d.Sound home) (absent : d.record v = none) :
    (d.load v).Sound home := by
  have unloaded := sound.not_loaded absent
  refine ⟨?_, ?_, ?_, ?_, ?_, ?_, ?_⟩
  · intro id w member
    rcases List.mem_cons.mp member with new | old
    · cases new
      exact ⟨_, record_load, rfl⟩
    · obtain ⟨journal, known, same⟩ := sound.known id w old
      refine ⟨journal, ?_, same⟩
      rw [record_load_other]
      · exact known
      · rintro rfl
        exact unloaded ⟨id, old⟩
  · intro w u journal known member
    by_cases here : w = v
    · subst here
      cases record_load.symm.trans known
      rcases List.mem_cons.mp member with new | old
      · cases new
        rfl
      · obtain ⟨back, known', same⟩ := sound.known _ u old
        have below : back.moduleId < d.nextModule := sound.numbered u back known'
        exact absurd same (Nat.ne_of_lt below)
    · rw [record_load_other here] at known
      rcases List.mem_cons.mp member with new | old
      · have below := sound.numbered w journal known
        have same := congrArg Prod.fst new
        dsimp only at same
        omega
      · exact sound.own w u journal known old
  · intro w journal known
    show _ < d.nextModule + 1
    by_cases here : w = v
    · subst here
      cases record_load.symm.trans known
      exact Nat.lt_succ_self _
    · rw [record_load_other here] at known
      exact Nat.lt_succ_of_lt (sound.numbered w journal known)
  · rcases sound.default with device | ⟨w, loaded, same⟩
    · exact .inl device
    · exact .inr ⟨w, loaded.load, same⟩
  · intro w journal known
    by_cases here : w = v
    · subst here
      cases record_load.symm.trans known
      rcases sound.default with device | ⟨u, loaded, same⟩
      · exact .inl device
      · rcases w.eq_or_other u with rfl | rfl
        · exact absurd loaded unloaded
        · exact .inr same
    · rw [record_load_other here] at known
      exact sound.previous w journal known
  · intro w journal back known known' previous previous'
    by_cases here : w = v
    · subst here
      cases record_load.symm.trans known
      rw [record_load_other w.other_ne] at known'
      have loaded := sound.nested w.other back previous known' (by rwa [VirtualSink.other_other])
      rw [VirtualSink.other_other] at loaded
      exact unloaded loaded
    · rw [record_load_other here] at known
      have there : w.other = v := by
        rcases v.eq_or_other w with same | rfl
        · exact absurd same here
        · exact v.other_other
      subst there
      cases record_load.symm.trans known'
      exact unloaded (sound.nested w journal previous' known previous)
  · intro w journal default known previous
    by_cases here : w = v
    · subst here
      exact absurd (sound.loaded_of_default default) unloaded
    · rw [record_load_other here] at known
      exact (sound.nested w journal default known previous).load

/-- A loaded sink becomes the default. -/
def take (d : Redirects) (v : VirtualSink) : Redirects := { d with defaultSink := .virtual v }

theorem Sound.take (sound : d.Sound home) (recorded : d.record v = some journal)
    (loaded : d.Loaded v) (before : journal.previousSink = d.defaultSink) :
    (d.take v).Sound home := by
  refine ⟨sound.known, sound.own, sound.numbered, .inr ⟨v, loaded, rfl⟩, sound.previous,
    sound.apart, ?_⟩
  rintro w back ⟨⟩ known previous
  cases recorded.symm.trans known
  exact sound.loaded_of_default (before.symm.trans previous)

end Redirects

end EdgeKvm.Audio
