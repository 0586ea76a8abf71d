import GraphTalk.Dataset.Batch
import GraphTalk.Proofs.Knowledge.Keys
import GraphTalk.Proofs.Text.Words

/-!
# One normal form of spacing

Rows of the output and keys of the cache are both in the normal form of spacing, though a row is
made by joining words and a key by trimming and collapsing. The two are one function of the words
of a text, and tell them (`spacing_canonical`). So two URLs share a key of the cache exactly if they
differ in nothing but their spacing, and a request does not tell such URLs apart.
-/

namespace GraphTalk.Dataset

open Knowledge Text

/-- Trimming a text and collapsing its blanks gives the same as joining its words with single
spaces, and gives it again when it is done twice. Texts have one such normal form exactly if they
have the same words. The wording in a row is in this form. A request keeps its reply under this form
of its URL, so two URLs share a key exactly if they have the same words, and are then the same
request. -/
theorem spacing_canonical {σ : Type} [Nonempty σ] (net : Network σ) (s : String) :
    (∀ ws, words s = ws ↔ Spells s ws) ∧
    normalizeBlanks s = joinWords (words s) ∧
    (∀ id p, convertedRow id p s = .row id (normalizeBlanks s) p.render) ∧
    normalizeBlanks (normalizeBlanks s) = normalizeBlanks s ∧
    (∀ t, normalizeBlanks s = normalizeBlanks t ↔ words s = words t) ∧
    KeptUnder (request net s) (normalizeBlanks s) ∧
    (∀ t, SameKey (request net s) (request net t) ↔ words s = words t) ∧
    ∀ t caching, words s = words t → request net s caching = request net t caching := by
  refine ⟨fun _ => words_eq_iff, normalizeBlanks_eq_joinWords s, fun id p => ?_,
    normalizeBlanks_normalizeBlanks s, fun _ => normalizeBlanks_eq_iff, keptUnder_request net s,
    fun t => ?_, fun t caching h => ?_⟩
  · rw [convertedRow, normalizeBlanks_eq_joinWords]
  · rw [sameKey_iff (keptUnder_request net s) (keptUnder_request net t), normalizeBlanks_eq_iff]
  · rw [request, request, normalizeBlanks_eq_iff.mpr h]

/-- URLs with other blanks at the same places share a key, and URLs with a word more do not. A
zero-width space is no blank. -/
theorem spacing_canonical_exotic :
    let net : Network Unit := .offline
    normalizeBlanks "\u2003a\x1f \u3000b\n" = "a b" ∧
    SameKey (request net "\u2003a\x1f \u3000b\n") (request net "a\tb") ∧
    ¬ SameKey (request net "a b") (request net "a\u200bb") := by
  intro net
  obtain ⟨-, hjoined, -, -, -, -, hkey, -⟩ := spacing_canonical net "\u2003a\x1f \u3000b\n"
  obtain ⟨-, -, -, -, -, -, hplain, -⟩ := spacing_canonical net "a b"
  have hwords : words "\u2003a\x1f \u3000b\n" = ["a", "b"] := by decide +kernel
  refine ⟨?_, (hkey "a\tb").mpr ?_, fun h => ?_⟩
  · rw [hjoined, hwords]
    decide +kernel
  · decide +kernel
  · exact absurd ((hplain "a\u200bb").mp h) (by decide +kernel)

end GraphTalk.Dataset
