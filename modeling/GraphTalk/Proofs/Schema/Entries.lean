import GraphTalk.Proofs.Document.Proper
import GraphTalk.Proofs.Schema.Names

/-!
# Entries by keys

When entries are set one after the other, the last one of a key is found and the first one gives its
place. So what is found after further entries are set is found among these or else as before
(`lookup_setEntries`), and their new keys come after the old ones (`entryKeys_setEntries`).
-/

namespace GraphTalk

variable {α : Type} {entries news : List (String × α)} {key : String} {value : α}

/-- Entries of schemas are set like members of documents. -/
lemma setEntry_eq_setMember (entries : List (String × α)) (key : String) (value : α) :
    setEntry entries key value = setMember entries key value := by
  induction entries with
  | nil => rfl
  | cons e entries ih =>
    obtain ⟨k, v⟩ := e
    simp only [setEntry, setMember, ih]

/-- The keys of entries, in order. -/
def entryKeys (entries : List (String × α)) : List String := entries.map Prod.fst

/-- Sets entries one after the other. -/
def setEntries (entries news : List (String × α)) : List (String × α) :=
  news.foldl (fun es e => setEntry es e.1 e.2) entries

@[simp] lemma setEntries_nil (entries : List (String × α)) : setEntries entries [] = entries := rfl

lemma setEntries_append (entries news more : List (String × α)) :
    setEntries entries (news ++ more) = setEntries (setEntries entries news) more :=
  List.foldl_append

lemma setEntries_concat (entries news : List (String × α)) (e : String × α) :
    setEntries entries (news ++ [e]) = setEntry (setEntries entries news) e.1 e.2 :=
  setEntries_append entries news [e]

lemma entryKeys_setEntry (entries : List (String × α)) (key : String) (value : α) :
    entryKeys (setEntry entries key value) =
      if key ∈ entryKeys entries then entryKeys entries else entryKeys entries ++ [key] := by
  rw [setEntry_eq_setMember]
  exact Document.map_fst_setMember entries key value

lemma lookup_setEntry (entries : List (String × α)) (key other : String) (value : α) :
    (setEntry entries key value).lookup other =
      if other = key then some value else entries.lookup other := by
  rw [setEntry_eq_setMember]
  exact Document.lookup_setMember entries key other value

/-- The entries that are set last are found. -/
lemma lookup_setEntries (entries news : List (String × α)) (key : String) :
    (setEntries entries news).lookup key =
      ((setEntries [] news).lookup key).or (entries.lookup key) := by
  induction news using List.reverseRecOn with
  | nil => rfl
  | append_singleton news e ih =>
    rw [setEntries_concat, setEntries_concat, lookup_setEntry, lookup_setEntry, ih]
    split <;> rfl

/-- New keys come after those that there are. -/
lemma entryKeys_setEntries (entries news : List (String × α)) :
    entryKeys (setEntries entries news) =
      entryKeys entries ++ (entryKeys (setEntries [] news)).filter (· ∉ entryKeys entries) := by
  induction news using List.reverseRecOn with
  | nil => simp [entryKeys]
  | append_singleton news e ih =>
    simp only [setEntries_concat, entryKeys_setEntry, ih, List.mem_append, List.mem_filter,
      decide_eq_true_eq]
    by_cases hnew : e.1 ∈ entryKeys (setEntries [] news)
    · by_cases hold : e.1 ∈ entryKeys entries <;> simp [hnew, hold]
    · by_cases hold : e.1 ∈ entryKeys entries <;> simp [hnew, hold]

lemma nodup_entryKeys_setEntries (news : List (String × α)) :
    (entryKeys (setEntries [] news)).Nodup := by
  induction news using List.reverseRecOn with
  | nil => exact List.nodup_nil
  | append_singleton news e ih =>
    rw [setEntries_concat, setEntry_eq_setMember]
    exact Document.nodup_setMember _ ih

lemma mem_setEntries {e : String × α} (h : e ∈ setEntries entries news) :
    e ∈ entries ∨ e ∈ news := by
  induction news using List.reverseRecOn with
  | nil => exact .inl h
  | append_singleton news e' ih =>
    rw [setEntries_concat] at h
    rcases Manifest.mem_setEntry h with rfl | h
    · exact .inr (by simp)
    · exact (ih h).imp_right (List.mem_append_left _)

/-- Under different keys every entry is found. -/
lemma lookup_of_mem {e : String × α} (hnodup : (entryKeys entries).Nodup) (h : e ∈ entries) :
    entries.lookup e.1 = some e.2 := by
  induction entries with
  | nil => cases h
  | cons first entries ih =>
    obtain ⟨k, v⟩ := first
    rw [entryKeys, List.map_cons, List.nodup_cons] at hnodup
    rw [Document.lookup_cons_eq]
    rcases List.mem_cons.mp h with rfl | hmem
    · exact if_pos rfl
    · have hkey : e.1 ≠ k := fun heq => hnodup.1 (List.mem_map.mpr ⟨e, hmem, heq⟩)
      rw [if_neg hkey, ih hnodup.2 hmem]

end GraphTalk
