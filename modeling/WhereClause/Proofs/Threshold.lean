import WhereClause.Proofs.Faults

/-!
# The Limit is a Threshold

What a limit on the nesting of a document can change.

For each document there is a number that divides the limits in two. Below it
the document is refused for its depth, whatever else is wrong with it. From it
on the limit has no say: the document is built into one and the same filter,
or refused for one and the same fault, and that fault is not its depth.

The number is not how deep the document is nested. A fault ends the pass, so
what lies behind it is never looked at, and an object there may be nested as
deeply as it likes. It is the depth of the deepest object before the first
fault of another kind, which is `reach`. Only in a document that is built is
there no such fault, and then the two numbers agree.

Everything here is about the list of findings. A limit turns each depth that
exceeds it into a fault and drops the others, so the first fault under a limit
is a depth if an object before the first lasting fault exceeds the limit, and
otherwise that lasting fault itself.

## Main definitions

* `reach`: The depth of the deepest object before the first lasting fault.
* `lasting?`: The first fault that no limit avoids.
* `IsThreshold`: A number that divides the limits in two.

## Theorems

* `head?_faultsIn_of_lt`, `head?_faultsIn_of_le`: The first fault below the
  threshold, and from there on.
* `isThreshold_reach`: The reach of the findings is a threshold.
* `IsThreshold.raise`: Raising the limit changes nothing but refusals for
  depth.
* `depth_limit_is_sharp`: Every document has a threshold.
-/

namespace WhereClause

namespace Filter

/-- The depth of the deepest object before the first fault that no limit
    avoids. -/
def reach : List Finding → Nat
  | [] => 0
  | .level depth :: rest => max depth (reach rest)
  | .unsupported _ :: _ => 0
  | .malformed _ _ :: _ => 0

/-- The first fault that no limit avoids. -/
def lasting? : List Finding → Option Fault
  | [] => none
  | .level _ :: rest => lasting? rest
  | .unsupported key :: _ => some (.unsupported key)
  | .malformed place reason :: _ => some (.malformed ⟨place⟩ reason)

/-- A number that divides the limits for a document in two. -/
structure IsThreshold (document : Json) (threshold : Nat) : Prop where
  /-- Below it the document is refused for its depth. -/
  below : ∀ limit < threshold, (build limit document).outcome = .error (.tooDeep limit)
  /-- From it on the limit has no say. -/
  steady : ∀ limit other, threshold ≤ limit → threshold ≤ other →
    (build limit document).outcome = (build other document).outcome
  /-- From it on the document is not refused for its depth. -/
  free : ∀ limit, threshold ≤ limit →
    ∀ bound, (build limit document).outcome ≠ .error (.tooDeep bound)
  /-- For a document that is built it is how deep its filters are nested. -/
  nested : ∀ limit filter, threshold ≤ limit → (build limit document).outcome = .ok filter →
    threshold = nesting document

/-- A fault that no limit avoids is not about depth. -/
theorem lasting?_ne_tooDeep (findings : List Finding) (bound : Nat) :
    lasting? findings ≠ some (.tooDeep bound) := by
  induction findings with
  | nil => nofun
  | cons finding rest ih =>
      cases finding with
      | level depth => exact ih
      | unsupported key => nofun
      | malformed place reason => nofun

/-- Below the reach the first fault is that of an object that lies too deep. -/
theorem head?_faultsIn_of_lt (limit : Nat) (findings : List Finding)
    (h : limit < reach findings) : (faultsIn limit findings).head? = some (.tooDeep limit) := by
  induction findings with
  | nil => exact absurd h (Nat.not_lt_zero limit)
  | cons finding rest ih =>
      cases finding with
      | level depth =>
          rw [faultsIn_level]
          by_cases hdepth : limit < depth
          · rw [if_pos hdepth]
            rfl
          · -- This object is not too deep, so one behind it is.
            have hrest : limit < reach rest := by
              rw [reach] at h
              omega
            rw [if_neg hdepth, List.nil_append]
            exact ih hrest
      | unsupported key => exact absurd h (Nat.not_lt_zero limit)
      | malformed place reason => exact absurd h (Nat.not_lt_zero limit)

/-- From the reach on it is the first lasting fault. -/
theorem head?_faultsIn_of_le (limit : Nat) (findings : List Finding)
    (h : reach findings ≤ limit) : (faultsIn limit findings).head? = lasting? findings := by
  induction findings with
  | nil => rfl
  | cons finding rest ih =>
      cases finding with
      | level depth =>
          rw [reach] at h
          have hdepth : ¬limit < depth := by omega
          have hrest : reach rest ≤ limit := by omega
          rw [faultsIn_level, if_neg hdepth, List.nil_append]
          exact ih hrest
      | unsupported key => rfl
      | malformed place reason => rfl

theorem build_of_lt_reach (limit : Nat) (document : Json)
    (h : limit < reach (findings document)) :
    (build limit document).outcome = .error (.tooDeep limit) :=
  (reports_build limit document _).2 (head?_faultsIn_of_lt limit _ h)

-- From the reach on the outcome can be said without the limit.
theorem build_of_reach_le (limit : Nat) (document : Json)
    (h : reach (findings document) ≤ limit) :
    (build limit document).outcome =
      match lasting? (findings document) with
      | some fault => .error fault
      | none => .ok (ofDocument none document) := by
  have hhead := head?_faultsIn_of_le limit (findings document) h
  have hreports := reports_build limit document
  -- If no fault lasts there is none, and the document is built into its filter.
  cases hlasting : lasting? (findings document) with
  | some fault => exact (hreports fault).2 (hhead.trans hlasting)
  | none =>
      cases hbuild : (build limit document).outcome with
      | error fault =>
          have hfault := (hreports fault).1 hbuild
          rw [faults, hhead, hlasting] at hfault
          cases hfault
      | ok filter => rw [(isDocument_of_build limit document filter hbuild).2]

theorem isThreshold_reach (document : Json) :
    IsThreshold document (reach (findings document)) where
  below limit h := build_of_lt_reach limit document h
  steady limit other h h' := by
    rw [build_of_reach_le limit document h, build_of_reach_le other document h']
  free limit h bound := by
    rw [build_of_reach_le limit document h]
    intro herror
    cases hlasting : lasting? (findings document) with
    | none =>
        rw [hlasting] at herror
        cases herror
    | some fault =>
        rw [hlasting] at herror
        rw [Except.error.inj herror] at hlasting
        exact lasting?_ne_tooDeep _ bound hlasting
  nested limit filter h hok := by
    rcases isDocument_of_build limit document filter hok with ⟨hdocument, heq⟩
    have hbuilt := fun limit => build_of_isDocument_iff limit document hdocument
    -- Neither number can be lower than the other: at the lower one the
    -- document would be built and refused.
    refine Nat.le_antisymm (Nat.not_lt.1 fun hlt => ?_) ?_
    · have hrefused := build_of_lt_reach (nesting document) document hlt
      rw [(hbuilt _).2 (Nat.le_refl _)] at hrefused
      cases hrefused
    · refine (hbuilt _).1 ?_
      rw [build_of_reach_le _ document (Nat.le_refl _), ← build_of_reach_le limit document h, hok,
        heq]

/-- A higher limit gives the same outcome, unless the document was refused for
    its depth. -/
theorem IsThreshold.raise {document : Json} {threshold : Nat}
    (h : IsThreshold document threshold) (low high : Nat) (hle : low ≤ high)
    (hnot : (build low document).outcome ≠ .error (.tooDeep low)) :
    (build high document).outcome = (build low document).outcome := by
  have hlow : threshold ≤ low := Nat.not_lt.1 fun hlt => hnot (h.below low hlt)
  exact h.steady high low (Nat.le_trans hlow hle) hlow

/-- The limit is a sharp threshold. Raising it changes neither a success nor a
    fault that is not about depth. -/
theorem depth_limit_is_sharp (document : Json) :
    (∃ threshold, IsThreshold document threshold) ∧
      ∀ low high, low ≤ high →
        (∀ filter, (build low document).outcome = .ok filter →
          (build high document).outcome = .ok filter) ∧
        ∀ fault, (build low document).outcome = .error fault → fault ≠ .tooDeep low →
          (build high document).outcome = .error fault := by
  have hthreshold := isThreshold_reach document
  refine ⟨⟨_, hthreshold⟩, fun low high hle => ⟨fun filter hok => ?_, fun fault herror hnot => ?_⟩⟩
  · rw [hthreshold.raise low high hle (by rw [hok]; nofun), hok]
  · -- The fault was not the depth, so `low` is not below the threshold.
    rw [hthreshold.raise low high hle ?_, herror]
    rw [herror]
    exact fun heq => hnot (Except.error.inj heq)

-- The object behind the fault is nested more deeply than the threshold.
example : reach (findings (.object [("a", .object [("b", .array [])]),
    ("c", .object [("d", .object [("e", .null)])])])) = 2 := by
  rfl

end Filter

end WhereClause
