import AgentOperator.Proofs.Reconcile.Merge
import AgentOperator.Store.Basic

/-!
# Addresses of services

What the server sets of a service: its address, which a merge carries over, and
its type, which no service asks for.  Apart from these fields a service that was
made has the body that was desired, and it holds what another service of its
name asks for just when that body does.
-/

namespace AgentOperator

/-! ## Services that can be given an address -/

/-- The body of a service before the server completes it: the addresses and the
type are not set, and an address is one or is absent. -/
structure IsAddressable (body : Json) : Prop extends body.IsBuiltBody where
  address : ∀ ip, body.at? ["spec", "clusterIP"] = some ip → ip.isEmpty = false
  addresses : body.at? ["spec", "clusterIPs"] = none
  type : body.at? ["spec", "type"] = none

namespace Store

/-- The address that the server gives a service, unless it has one. -/
def addressOf (number : Nat) (body : Json) : Json :=
  (body.at? ["spec", "clusterIP"]).getD (.str ("10.96.0." ++ toString number))

/-- The body of a service with its address, before its type is set. -/
def addressed (number : Nat) (body : Json) : Json :=
  (body.setAt ["spec", "clusterIP"] (addressOf number body)).setAt ["spec", "clusterIPs"]
    (.arr [addressOf number body])

theorem at?_eq_none_or_addressOf (number : Nat) (body : Json) :
    body.at? ["spec", "clusterIP"] = none ∨
      body.at? ["spec", "clusterIP"] = some (addressOf number body) := by
  unfold addressOf
  cases body.at? ["spec", "clusterIP"] with
  | none => exact .inl rfl
  | some ip => exact .inr rfl

theorem addressOf_congr (number : Nat) {body other : Json}
    (hsame : body.at? ["spec", "clusterIP"] = other.at? ["spec", "clusterIP"]) :
    addressOf number body = addressOf number other := by
  unfold addressOf
  rw [hsame]

end Store

namespace IsAddressable

open Store (addressOf addressed)

variable {body : Json}

theorem isEmpty_addressOf (hbody : IsAddressable body) (number : Nat) :
    (addressOf number body).isEmpty = false := by
  unfold addressOf
  cases hip : body.at? ["spec", "clusterIP"] with
  | none => simp [Json.isEmpty]
  | some ip => exact hbody.address ip hip

theorem canonical_addressOf (hbody : IsAddressable body) (number : Nat) :
    (addressOf number body).Canonical := by
  unfold addressOf
  cases hip : body.at? ["spec", "clusterIP"] with
  | none => exact .str _
  | some ip => exact hbody.canonical.at? hip

theorem canonical_addresses (hbody : IsAddressable body) (number : Nat) :
    (Json.arr [addressOf number body]).Canonical :=
  .arr _ (by simpa using hbody.canonical_addressOf number)

/-- A service that has an address keeps it. -/
theorem setAt_of_address (hbody : IsAddressable body) (number : Nat)
    (hip : body.at? ["spec", "clusterIP"] = some (addressOf number body)) :
    body.setAt ["spec", "clusterIP"] (addressOf number body) = body :=
  hbody.canonical.setAt_of_at? (hbody.isOpenTo _) hip

theorem isBuiltBody_address (hbody : IsAddressable body) (number : Nat) :
    (body.setAt ["spec", "clusterIP"] (addressOf number body)).IsBuiltBody :=
  hbody.setAt (hbody.canonical_addressOf number) _

theorem isBuiltBody_addressed (hbody : IsAddressable body) (number : Nat) :
    (addressed number body).IsBuiltBody :=
  (hbody.isBuiltBody_address number).setAt (hbody.canonical_addresses number) _

theorem at?_addressed_type (hbody : IsAddressable body) (number : Nat) :
    (addressed number body).at? ["spec", "type"] = none := by
  unfold addressed
  rw [(hbody.isBuiltBody_address number).at?_setAt_of_ne (by decide),
    hbody.at?_setAt_of_ne (by decide)]
  exact hbody.type

/-- What the server makes of a service is its body with an address and the type. -/
theorem allocate_eq (hbody : IsAddressable body) (number : Nat) :
    Store.allocate number body =
      (addressed number body).setAt ["spec", "type"] (.str "ClusterIP") := by
  unfold Store.allocate addressed
  cases hip : body.at? ["spec", "clusterIP"] with
  | none =>
      have haddress : addressOf number body = .str ("10.96.0." ++ toString number) := by
        unfold addressOf
        rw [hip]
        rfl
      rw [haddress]
  | some ip =>
      have haddress : addressOf number body = ip := by
        unfold addressOf
        rw [hip]
        rfl
      have hnull : ip ≠ .null := by
        rintro rfl
        simpa [Json.isEmpty] using hbody.address _ hip
      rw [haddress, hbody.canonical.setAt_of_at? (hbody.isOpenTo _) hip]
      simp only [hbody.addresses, Store.isUnset, if_true]

theorem at?_allocate_clusterIP (hbody : IsAddressable body) (number : Nat) :
    (Store.allocate number body).at? ["spec", "clusterIP"] =
      some (addressOf number body) := by
  rw [hbody.allocate_eq, (hbody.isBuiltBody_addressed number).at?_setAt_of_ne (by decide)]
  unfold addressed
  rw [(hbody.isBuiltBody_address number).at?_setAt_of_ne (by decide), Json.at?_setAt_self]

theorem at?_allocate_clusterIPs (hbody : IsAddressable body) (number : Nat) :
    (Store.allocate number body).at? ["spec", "clusterIPs"] =
      some (.arr [addressOf number body]) := by
  rw [hbody.allocate_eq, (hbody.isBuiltBody_addressed number).at?_setAt_of_ne (by decide)]
  exact Json.at?_setAt_self _ _ _

/-- A service takes the address of a live one that does not disagree with its own. -/
theorem mergeFields_eq (hbody : IsAddressable body) {live : Json} {number : Nat}
    (hip : live.at? ["spec", "clusterIP"] = some (addressOf number body))
    (hips : live.at? ["spec", "clusterIPs"] = some (.arr [addressOf number body])) :
    mergeFields live Kind.service.immutableFields body =
      (none, addressed number body) := by
  have hfirst : Json.content? (live.at? ["spec", "clusterIP"]) =
      some (addressOf number body) :=
    Json.content?_eq_some_iff.mpr ⟨hip, hbody.isEmpty_addressOf number⟩
  have hsecond : Json.content? (live.at? ["spec", "clusterIPs"]) =
      some (.arr [addressOf number body]) :=
    Json.content?_eq_some_iff.mpr ⟨hips, rfl⟩
  have hrest : mergeFields live [["spec", "clusterIPs"]]
      (body.setAt ["spec", "clusterIP"] (addressOf number body)) =
        (none, addressed number body) := by
    have hnone : Json.content? ((body.setAt ["spec", "clusterIP"]
        (addressOf number body)).at? ["spec", "clusterIPs"]) = none := by
      rw [hbody.at?_setAt_of_ne (by decide), hbody.addresses, Json.content?_none]
    rw [mergeFields_cons_of_target_none hsecond hnone]
    rfl
  show mergeFields live [["spec", "clusterIP"], ["spec", "clusterIPs"]] body = _
  rcases Store.at?_eq_none_or_addressOf number body with hunset | hset
  · have hnone : Json.content? (body.at? ["spec", "clusterIP"]) = none := by
      rw [hunset, Json.content?_none]
    rw [mergeFields_cons_of_target_none hfirst hnone]
    exact hrest
  · have hwanted : Json.content? (body.at? ["spec", "clusterIP"]) =
        some (addressOf number body) :=
      Json.content?_eq_some_iff.mpr ⟨hset, hbody.isEmpty_addressOf number⟩
    rw [mergeFields_cons_of_both hfirst hwanted, if_pos (Json.beq_self _)]
    rwa [hbody.setAt_of_address number hset] at hrest

end IsAddressable

/-! ## Bodies apart from what the server sets -/

/-- The fields of a service's spec that the server sets. -/
def serverFields : List String := ["clusterIP", "clusterIPs", "type"]

/-- A body of a kind apart from what the server sets. -/
def ownBody (kind : Kind) (body : Json) : Json :=
  if kind = .service then body.withoutSpecFields serverFields else body

/-- A body that has a spec and nothing else. -/
def Json.ofSpec (spec : List (String × Json)) : Json := .obj [("spec", .obj spec)]

namespace Json

variable (spec live desired : List (String × Json)) (field : String) (value : Json)

theorem at?_ofSpec : (ofSpec spec).at? ["spec", field] = Keyed.get? field spec := by
  simp [ofSpec, Json.at?, child?, Keyed.get?]

theorem setAt_ofSpec :
    (ofSpec spec).setAt ["spec", field] value = ofSpec (Keyed.insert field value spec) := by
  simp [ofSpec, Json.setAt, Keyed.insert]

theorem contains_ofSpec :
    (ofSpec live).contains (ofSpec desired) = containsFields live desired := by
  simp [ofSpec, contains, containsFields, Keyed.get?]

theorem canonical_of_ofSpec {spec : List (String × Json)}
    (hcanonical : (ofSpec spec).Canonical) : (obj spec).Canonical :=
  hcanonical.of_mem List.mem_cons_self

end Json

theorem withoutSpecFields_ofSpec (dropped : List String) (spec : List (String × Json)) :
    (Json.ofSpec spec).withoutSpecFields dropped =
      .ofSpec (spec.filter fun entry => !dropped.contains entry.1) := by
  simp [Json.withoutSpecFields, Json.withoutFieldsOf, Json.ofSpec]

theorem withoutSpecFields_setAt {dropped : List String} (spec : List (String × Json))
    {field : String} (hfield : field ∈ dropped) (value : Json) :
    ((Json.ofSpec spec).setAt ["spec", field] value).withoutSpecFields dropped =
      (Json.ofSpec spec).withoutSpecFields dropped := by
  have hdropped : (!dropped.contains field) = false := by simpa using hfield
  rw [Json.setAt_ofSpec, withoutSpecFields_ofSpec, withoutSpecFields_ofSpec,
    Keyed.filter_insert (p := fun key => !dropped.contains key) hdropped]

namespace IsAddressable

open Store (addressOf addressed)

variable {spec live desired : List (String × Json)}

theorem addressed_ofSpec (spec : List (String × Json)) (number : Nat) :
    addressed number (.ofSpec spec) =
      .ofSpec (Keyed.insert "clusterIPs" (.arr [addressOf number (.ofSpec spec)])
        (Keyed.insert "clusterIP" (addressOf number (.ofSpec spec)) spec)) := by
  unfold addressed
  rw [Json.setAt_ofSpec, Json.setAt_ofSpec]

theorem withoutSpecFields_addressed (spec : List (String × Json)) (number : Nat) :
    (addressed number (.ofSpec spec)).withoutSpecFields serverFields =
      (Json.ofSpec spec).withoutSpecFields serverFields := by
  unfold addressed
  rw [Json.setAt_ofSpec, withoutSpecFields_setAt _ (by decide), ← Json.setAt_ofSpec,
    withoutSpecFields_setAt _ (by decide)]

/-- Apart from what the server sets, what it makes of a service is what was desired. -/
theorem withoutSpecFields_allocate (hbody : IsAddressable (.ofSpec spec)) (number : Nat) :
    (Store.allocate number (.ofSpec spec)).withoutSpecFields serverFields =
      (Json.ofSpec spec).withoutSpecFields serverFields := by
  rw [hbody.allocate_eq, ← withoutSpecFields_addressed spec number, addressed_ofSpec,
    withoutSpecFields_setAt _ (by decide)]

/-- A service that was made holds what another one of its address asks for just when
the body that was desired of it does. -/
theorem contains_allocate (hlive : IsAddressable (.ofSpec live))
    (hdesired : IsAddressable (.ofSpec desired))
    (hsame : (Json.ofSpec live).at? ["spec", "clusterIP"] =
      (Json.ofSpec desired).at? ["spec", "clusterIP"]) (number : Nat) :
    (Store.allocate number (.ofSpec live)).contains (addressed number (.ofSpec desired)) =
      (Json.ofSpec live).contains (.ofSpec desired) := by
  have hip := hdesired.canonical_addressOf number
  have hips := hdesired.canonical_addresses number
  have htype := hdesired.at?_addressed_type number
  have hcanonical := Json.canonical_of_ofSpec hdesired.canonical
  have haddresses : Keyed.get? "clusterIPs" live = Keyed.get? "clusterIPs" desired := by
    rw [← Json.at?_ofSpec, ← Json.at?_ofSpec, hlive.addresses, hdesired.addresses]
  have haddress : Keyed.get? "clusterIP" live = Keyed.get? "clusterIP" desired := by
    rw [← Json.at?_ofSpec, ← Json.at?_ofSpec, hsame]
  rw [hlive.allocate_eq, addressed_ofSpec, Store.addressOf_congr number hsame,
    addressed_ofSpec, Json.setAt_ofSpec, Json.contains_ofSpec, Json.contains_ofSpec]
  rw [addressed_ofSpec, Json.at?_ofSpec] at htype
  have hordered := (hcanonical.ordered.insert "clusterIP" (addressOf number
    (.ofSpec desired))).insert "clusterIPs" (.arr [addressOf number (.ofSpec desired)])
  rw [Json.containsFields_insert_left hordered htype,
    Json.containsFields_insert (hcanonical.insert hip) ?_ hips,
    Json.containsFields_insert hcanonical haddress hip]
  rw [Keyed.get?_insert_of_ne (by decide), Keyed.get?_insert_of_ne (by decide)]
  exact haddresses

end IsAddressable

end AgentOperator
