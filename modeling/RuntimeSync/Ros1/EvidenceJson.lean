import RuntimeSync.Ros1.CycleBundles

/-!
# Evidence and reasons as JSON

The node writes its JSON by hand.  A reader of strings and of flat objects gets
back what was written, whatever bytes are in the texts.
-/

namespace RuntimeSync

namespace EvidenceReader

/-! ## A reader -/

/-- Reads a string up to the quote that ends it; the flag is set behind a
backslash. -/
def readString : Bool → Str → Option (Str × Str)
  | _, [] => none
  | true, c :: rest => (readString false rest).map (Prod.map (c :: ·) id)
  | false, c :: rest =>
      if c = byte '"' then some ([], rest)
      else if c = byte '\\' then readString true rest
      else (readString false rest).map (Prod.map (c :: ·) id)

/-- Whether a number goes on with the byte. -/
def inNumber (c : UInt8) : Bool := c ≠ byte ',' && c ≠ byte '\x7d'

/-- Reads a name and the number behind it. -/
def readMember (s : Str) : Option ((Str × Str) × Str) :=
  match s with
  | [] => none
  | c :: s =>
      if c ≠ byte '"' then none
      else
        match readString false s with
        | none => none
        | some (_, []) => none
        | some (name, c :: rest) =>
            if c ≠ byte ':' then none
            else some ((name, rest.takeWhile inNumber), rest.dropWhile inNumber)

/-- Reads members up to the brace that ends the object.  Each member takes one
unit of fuel. -/
def readMembers : ℕ → Str → Option (List (Str × Str))
  | 0, _ => none
  | fuel + 1, s =>
      match readMember s with
      | none => none
      | some (_, []) => none
      | some (item, c :: rest) =>
          if c = byte ',' then (readMembers fuel rest).map (item :: ·)
          else if rest = [] then some [item] else none

def readObject (fuel : ℕ) (s : Str) : Option (List (Str × Str)) :=
  match s with
  | [] => none
  | c :: rest =>
      if c ≠ byte '\x7b' then none
      else if rest = [byte '\x7d'] then some []
      else readMembers fuel rest

/-! ## Strings -/

theorem jsonEscape_cons (c : UInt8) (s : Str) :
    jsonEscape (c :: s) = escapeByte c ++ jsonEscape s := List.flatMap_cons

/-- Escaping keeps the quotes of a text apart from the quote that ends it. -/
theorem readString_jsonEscape (s rest : Str) :
    readString false (jsonEscape s ++ byte '"' :: rest) = some (s, rest) := by
  induction s with
  | nil => exact if_pos rfl
  | cons c s ih =>
      rw [jsonEscape_cons, escapeByte]
      split
      · change readString true (c :: (jsonEscape s ++ byte '"' :: rest)) = _
        rw [readString, ih]
        rfl
      · next hplain =>
          obtain ⟨hquote, hslash⟩ := not_or.mp hplain
          change readString false (c :: (jsonEscape s ++ byte '"' :: rest)) = _
          rw [readString, if_neg hquote, if_neg hslash, ih]
          rfl

/-! ## Objects -/

section Evidence

variable (print : DoubleText)

/-- Numbers are printed without commas and braces. -/
def PlainNumbers : Prop := ∀ value, ∀ c ∈ print.stream value, inNumber c = true

theorem text_quote : text "\"" = [byte '"'] := by decide +kernel

theorem text_quoteColon : text "\":" = [byte '"', byte ':'] := by decide +kernel

theorem text_comma : text "," = [byte ','] := by decide +kernel

theorem text_open : text "\x7b" = [byte '\x7b'] := by decide +kernel

theorem text_close : text "\x7d" = [byte '\x7d'] := by decide +kernel

variable {print}

theorem readMember_evidenceItem (hprint : PlainNumbers print) (item : Str × ℚ) {c : UInt8}
    (hc : inNumber c = false) (rest : Str) :
    readMember (evidenceItem print item ++ c :: rest) =
      some ((item.1, print.stream item.2), c :: rest) := by
  have hwritten : evidenceItem print item ++ c :: rest =
      byte '"' :: (jsonEscape item.1 ++
        byte '"' :: byte ':' :: (print.stream item.2 ++ c :: rest)) := by
    rw [evidenceItem, text_quote, text_quoteColon]
    simp only [List.append_assoc, List.cons_append, List.nil_append]
  rw [hwritten, readMember, if_neg (not_not_intro rfl), readString_jsonEscape]
  dsimp only
  rw [if_neg (not_not_intro rfl), List.takeWhile_append_of_pos (hprint item.2),
    List.dropWhile_append_of_pos (hprint item.2), List.takeWhile_cons_of_neg (by rw [hc]; decide),
    List.dropWhile_cons_of_neg (by rw [hc]; decide), List.append_nil]

theorem readMembers_evidence (hprint : PlainNumbers print) (item : Str × ℚ)
    (evidence : List (Str × ℚ)) {fuel : ℕ} (hfuel : evidence.length < fuel) :
    readMembers fuel ((text ",").intercalate ((item :: evidence).map (evidenceItem print)) ++
        [byte '\x7d']) =
      some ((item :: evidence).map (Prod.map id print.stream)) := by
  induction evidence generalizing item fuel with
  | nil =>
      obtain ⟨fuel, rfl⟩ := Nat.exists_eq_add_one_of_ne_zero (Nat.ne_of_gt hfuel)
      rw [List.map_singleton, List.intercalate_singleton, readMembers,
        readMember_evidenceItem hprint item (by decide)]
      rfl
  | cons next evidence ih =>
      have hpos : 0 < fuel := Nat.zero_lt_of_lt hfuel
      obtain ⟨fuel, rfl⟩ := Nat.exists_eq_add_one_of_ne_zero (Nat.ne_of_gt hpos)
      have hrest := ih next (Nat.lt_of_succ_lt_succ hfuel)
      rw [List.map_cons] at hrest
      rw [List.map_cons, List.map_cons, List.intercalate_cons_cons, text_comma, List.append_assoc,
        List.append_assoc, List.singleton_append, readMembers,
        readMember_evidenceItem hprint item (by decide)]
      rw [text_comma] at hrest
      dsimp only
      rw [if_pos rfl, hrest]
      rfl

/-- The evidence is read back name by name, each with the number as printed,
and a reader needs no more rounds than there are names. -/
theorem readObject_evidenceJson (hprint : PlainNumbers print) (evidence : List (Str × ℚ)) :
    readObject evidence.length (evidenceJson print evidence) =
      some (evidence.map (Prod.map id print.stream)) := by
  rw [evidenceJson, text_open, text_close]
  cases evidence with
  | nil => rfl
  | cons item evidence =>
      have hread := readMembers_evidence hprint item evidence (Nat.lt_succ_self _)
      rw [List.append_assoc, List.singleton_append, readObject, if_neg (not_not_intro rfl),
        if_neg, List.length_cons, hread]
      intro hclosed
      rw [hclosed] at hread
      cases hread

end Evidence

end EvidenceReader

open EvidenceReader

/-! ## Messages -/

/-- Whoever reads the JSON of a published message learns the evidence of the
transition or of the recommendation, and the reason of the budget. -/
theorem PublishingNode.published_json_reads {print : DoubleText} (hprint : PlainNumbers print)
    (node : PublishingNode) :
    (∀ transition cycleId stamp,
      readObject transition.evidence.length
          (node.runtime.toWeakNetStateMsg print transition cycleId stamp).evidenceJson =
        some (transition.evidence.map (Prod.map id print.stream))) ∧
      (∀ recommendation stamp,
        readObject recommendation.evidence.length
            (node.runtime.toRecommendationMsg print recommendation stamp).evidenceJson =
          some (recommendation.evidence.map (Prod.map id print.stream))) ∧
      ∀ stamp, ∃ body,
        (node.publishBudget stamp).reportJson = text "\x7b\"reason\":\"" ++ body ∧
          readString false body = some (node.weaknetBudget.reason, text "\x7d") := by
  refine ⟨fun transition _ _ ↦ readObject_evidenceJson hprint transition.evidence,
    fun recommendation _ ↦ readObject_evidenceJson hprint recommendation.evidence, fun stamp ↦ ?_⟩
  have hclose : text "\"\x7d" = byte '"' :: text "\x7d" := by decide +kernel
  refine ⟨jsonEscape node.weaknetBudget.reason ++ text "\"\x7d", ?_, ?_⟩
  · exact List.append_assoc _ _ _
  · rw [hclose]
    exact readString_jsonEscape _ _

/-- Enough for a link that is lost altogether or not at all. -/
def zeroOrOne : DoubleText where
  stream value := if value = 0 then text "0" else text "1"
  fixed value := if value = 0 then text "0.000000" else text "1.000000"

theorem plainNumbers_zeroOrOne : PlainNumbers zeroOrOne := by
  intro value
  change ∀ c ∈ if value = 0 then text "0" else text "1", inNumber c = true
  split <;> decide +kernel

theorem lostLink_json_reads :
    readObject 2 ((PublishingNode.demoInit.1.runtime.toWeakNetStateMsg zeroOrOne
        { evidence := [(text "fresh_ratio", 0), (text "missing_ratio", 1)] } 3
          ⟨1000, 0⟩).evidenceJson) =
      some [(text "fresh_ratio", text "0"), (text "missing_ratio", text "1")] :=
  (PublishingNode.published_json_reads plainNumbers_zeroOrOne PublishingNode.demoInit.1).1
    { evidence := [(text "fresh_ratio", 0), (text "missing_ratio", 1)] } 3 ⟨1000, 0⟩

end RuntimeSync
