import AgentOperator.Object.Metadata
import AgentOperator.Proofs.Json.Reading
import AgentOperator.Proofs.Timestamp

/-!
# Metadata that are read back

Metadata that were read are written in a form that is read as the same metadata.  That
they were read is needed for timestamps, which have to be of a year that can be written,
and for the field sets of clients, which have to be proper values other than null.
-/

namespace AgentOperator

open Json (Restores)

variable {json : Json}

theorem Timestamp.Valid.restores {t : Timestamp} (hvalid : t.Valid) :
    Restores (fun json => json.str?.bind Timestamp.read?) (fun t => .str t.text) t := by
  refine ⟨?_, rfl⟩
  have htext : (Json.str t.text).str? = some t.text := rfl
  simp only [htext, Option.bind_some, Timestamp.read?_text hvalid]

theorem Timestamp.valid_of_str? {t : Timestamp} (hread : json.str?.bind Timestamp.read? = some t) :
    t.Valid := by
  obtain ⟨text, -, htext⟩ := Option.bind_eq_some_iff.mp hread
  exact Timestamp.valid_of_read? htext

theorem Json.Record.valid_of_optional? {r : Json.Record} {name : String}
    {t? : Option Timestamp}
    (hread : r.optional? name (fun json => json.str?.bind Timestamp.read?) = some t?) :
    ∀ t, t? = some t → t.Valid := by
  rintro t rfl
  obtain ⟨json, -, hjson⟩ := exists_of_optional? hread
  exact Timestamp.valid_of_str? hjson

theorem OwnerReference.restores (o : OwnerReference) :
    Restores OwnerReference.ofJson? OwnerReference.toJson o := by
  apply Json.restores_openRecord (by simp)
  rintro r ⟨hversion, hblocks, hcontroller, hkind, hname, huid, -⟩
  rw [hversion.filled? (Json.restores_str _), hkind.filled? (Json.restores_str _),
    hname.filled? (Json.restores_str _), huid.filled? (Json.restores_str _),
    hcontroller.optional? fun _ _ => Json.restores_bool _,
    hblocks.optional? fun _ _ => Json.restores_bool _]
  rfl

namespace ManagedFields

variable {m : ManagedFields}

/-- The time can be written, and the set of fields is a value. -/
structure WellFormed (m : ManagedFields) : Prop where
  time : ∀ t, m.time = some t → t.Valid
  fields : ∀ set, m.fieldsV1 = some set → set.Canonical ∧ set.isNull = false

theorem wellFormed_of_ofJson? (hread : ofJson? json = some m) : m.WellFormed := by
  unfold ofJson? at hread
  obtain ⟨r, -, hread⟩ := Option.bind_eq_some_iff.mp hread
  iterate 4 obtain ⟨_, -, hread⟩ := Option.bind_eq_some_iff.mp hread
  obtain ⟨_, htime, hread⟩ := Option.bind_eq_some_iff.mp hread
  obtain ⟨_, -, hread⟩ := Option.bind_eq_some_iff.mp hread
  obtain ⟨set?, hset, hread⟩ := Option.bind_eq_some_iff.mp hread
  obtain rfl := Option.some.inj hread
  refine ⟨Json.Record.valid_of_optional? htime, ?_⟩
  rintro set rfl
  obtain ⟨given, hnull, hgiven⟩ := Json.Record.exists_of_optional? hset
  exact ⟨Json.canonical_of_canonical? given hgiven,
    (Json.isNull_of_canonical? hgiven).trans hnull⟩

theorem WellFormed.restores (hm : m.WellFormed) :
    Restores ManagedFields.ofJson? ManagedFields.toJson m := by
  apply Json.restores_openRecord (by simp)
  rintro r ⟨hversion, htype, hset, hmanager, hoperation, hsubresource, htime, -⟩
  have hset : r.optional? "fieldsV1" Json.canonical? = some m.fieldsV1 := by
    have hwritten : r.Holds "fieldsV1" (m.fieldsV1.map id) := by rwa [Option.map_id]
    apply hwritten.optional?
    intro set hfound
    obtain ⟨hcanonical, hnull⟩ := hm.fields set hfound
    exact ⟨hcanonical.canonical?_eq, hnull⟩
  rw [hmanager.optional? fun _ _ => Json.restores_str _,
    hoperation.optional? fun _ _ => Json.restores_str _,
    hversion.optional? fun _ _ => Json.restores_str _,
    hsubresource.optional? fun _ _ => Json.restores_str _,
    htime.optional? fun t ht => (hm.time t ht).restores,
    htype.optional? fun _ _ => Json.restores_str _, hset]
  rfl

end ManagedFields

namespace Metadata

variable {m : Metadata}

/-- The timestamps can be written, and so can what is said about clients. -/
structure WellFormed (m : Metadata) : Prop where
  creation : ∀ t, m.creationTimestamp = some t → t.Valid
  deletion : ∀ t, m.deletionTimestamp = some t → t.Valid
  managed : ∀ ms, m.managedFields = some ms → ∀ f ∈ ms, f.WellFormed

theorem wellFormed_of_ofJson? (hread : ofJson? json = some m) : m.WellFormed := by
  unfold ofJson? at hread
  obtain ⟨r, -, hread⟩ := Option.bind_eq_some_iff.mp hread
  iterate 11 obtain ⟨_, -, hread⟩ := Option.bind_eq_some_iff.mp hread
  obtain ⟨_, hcreation, hread⟩ := Option.bind_eq_some_iff.mp hread
  obtain ⟨_, hdeletion, hread⟩ := Option.bind_eq_some_iff.mp hread
  obtain ⟨_, -, hread⟩ := Option.bind_eq_some_iff.mp hread
  obtain ⟨ms?, hmanaged, hread⟩ := Option.bind_eq_some_iff.mp hread
  obtain rfl := Option.some.inj hread
  refine ⟨Json.Record.valid_of_optional? hcreation, Json.Record.valid_of_optional? hdeletion, ?_⟩
  rintro ms rfl f hmem
  obtain ⟨given, -, hgiven⟩ := Json.Record.exists_of_optional? hmanaged
  obtain ⟨element, helement⟩ := Json.exists_of_mem_list? hgiven hmem
  exact ManagedFields.wellFormed_of_ofJson? helement

theorem WellFormed.restores (hm : m.WellFormed) :
    Restores Metadata.ofJson? Metadata.toJson m := by
  apply Json.restores_openRecord (by simp)
  rintro r ⟨hannotations, hcreation, hgrace, hdeletion, hfinalizers, hstem, hgeneration,
    hlabels, hmanaged, hname, hnamespace, howners, hversion, hlink, huid, -⟩
  rw [hname.optional? fun _ _ => Json.restores_str _,
    hstem.optional? fun _ _ => Json.restores_str _,
    hnamespace.optional? fun _ _ => Json.restores_str _,
    huid.optional? fun _ _ => Json.restores_str _,
    hlink.optional? fun _ _ => Json.restores_str _,
    hversion.optional? fun _ _ => Json.restores_str _,
    hgeneration.optional? fun _ _ => Json.restores_int64 _,
    hlabels.optional? fun _ _ => Json.restores_dict _,
    hannotations.optional? fun _ _ => Json.restores_dict _,
    howners.optional? fun _ _ => Json.restores_list fun o _ => o.restores,
    hfinalizers.optional? fun _ _ => Json.restores_list fun s _ => Json.restores_str s,
    hcreation.optional? fun t ht => (hm.creation t ht).restores,
    hdeletion.optional? fun t ht => (hm.deletion t ht).restores,
    hgrace.optional? fun _ _ => Json.restores_int64 _,
    hmanaged.optional? fun ms hms =>
      Json.restores_list fun f hmem => (hm.managed ms hms f hmem).restores]
  rfl

end Metadata

end AgentOperator
