import TransitRouting.Scenario.Check

/-!
# The indices of a checked scenario

The check enters the links, and then the stops, into indices by id, in file order, refusing an
id that is entered already. An index it returns holds every id at its position in the file, and
the ids it entered do not repeat (`indexLinks_ok`, `indexStops_ok`); every stop it entered is on a
link of the link index. A checked scenario keeps its link index, and its routes were resolved
through the stop index (`Scenario.ofFile_eq_ok`).

## What this module delivers

- `bind_eq_ok`: reading a successful bind apart.
- `indexLinks_ok` and `indexStops_ok`: what the two indexing passes return.
- `Scenario.ofFile_eq_ok`: a checked scenario is the file with its link index and its routes
  resolved through its stop index.
- `Scenario.ofFile_linkIndex`: the link index of a checked scenario holds every link at its
  position, and link ids do not repeat.
-/

set_option autoImplicit false

namespace TransitRouting

/-- From a successful bind, the value bound and the continuation's success. -/
theorem bind_eq_ok {ε α β : Type} {x : Except ε α} {f : α → Except ε β} {b : β}
    (h : x >>= f = .ok b) : ∃ a, x = .ok a ∧ f a = .ok b := by
  cases x with
  | error e => cases h
  | ok a => exact ⟨a, rfl, h⟩

/-- Indexing links after the ids `ids`, onto an index of them, succeeds only when no id repeats;
the index returned then holds every id at its position. -/
theorem indexLinks_ok : ∀ {links : List Link} {ids : List String} {index index' : TextIndex},
    index.IndexesFirst ids → ids.Nodup → indexLinks index ids.length links = .ok index' →
      index'.IndexesFirst (ids ++ links.map Link.id) ∧ (ids ++ links.map Link.id).Nodup
  | [], ids, index, index', hidx, hnd, h => by
    cases h
    simpa using ⟨hidx, hnd⟩
  | l :: rest, ids, index, index', hidx, hnd, h => by
    simp only [indexLinks] at h
    split at h
    · cases h
    · rename_i hnew
      -- the link's id is new, so it is entered under its position
      have hl : l.id ∉ ids := fun hmem => hnew ((hidx.contains_iff l.id).2 hmem)
      rw [show ids.length + 1 = (ids ++ [l.id]).length by simp] at h
      have hnd' : (ids ++ [l.id]).Nodup :=
        List.nodup_append.2 ⟨hnd, by simp, by simpa using fun a ha (h : a = l.id) => hl (h ▸ ha)⟩
      simpa using indexLinks_ok (hidx.insert hl) hnd' h

/-- Indexing stops after the ids `ids`, onto an index of them, succeeds only when every stop is
on a link of `links` and no id repeats; the index returned then holds every id at its
position. -/
theorem indexStops_ok {links : TextIndex} :
    ∀ {stops : List Stop} {ids : List String} {index index' : TextIndex},
      index.IndexesFirst ids → ids.Nodup → indexStops links index ids.length stops = .ok index' →
        index'.IndexesFirst (ids ++ stops.map Stop.id) ∧ (ids ++ stops.map Stop.id).Nodup ∧
          ∀ st ∈ stops, links.contains st.link = true
  | [], ids, index, index', hidx, hnd, h => by
    cases h
    simpa using ⟨hidx, hnd⟩
  | st :: rest, ids, index, index', hidx, hnd, h => by
    simp only [indexStops] at h
    split at h
    · cases h
    · rename_i hlink
      split at h
      · cases h
      · rename_i hnew
        have hst : st.id ∉ ids := fun hmem => hnew ((hidx.contains_iff st.id).2 hmem)
        rw [show ids.length + 1 = (ids ++ [st.id]).length by simp] at h
        have hnd' : (ids ++ [st.id]).Nodup :=
          List.nodup_append.2 ⟨hnd, by simp, by simpa using fun a ha (h : a = st.id) => hst (h ▸ ha)⟩
        obtain ⟨hidx', hnd'', hlinks⟩ := indexStops_ok (hidx.insert hst) hnd' h
        refine ⟨by simpa using hidx', by simpa using hnd'', ?_⟩
        intro st' hst'
        rcases List.mem_cons.1 hst' with rfl | hst'
        · simpa using hlink
        · exact hlinks st' hst'

namespace Scenario

/-- A checked scenario is the file with its link index, its routes resolved through the index
of its stops; both indices hold every id at its position, link ids and stop ids do not repeat,
and every stop is on an indexed link. -/
theorem ofFile_eq_ok {f : ScenarioFile} {s : Scenario} (h : Scenario.ofFile f = .ok s) :
    ∃ linkIndex stopIndex lines,
      linkIndex.IndexesFirst (f.links.map Link.id) ∧ (f.links.map Link.id).Nodup ∧
      stopIndex.IndexesFirst (f.stops.map Stop.id) ∧ (f.stops.map Stop.id).Nodup ∧
      (∀ st ∈ f.stops, linkIndex.contains st.link = true) ∧
      resolveLines stopIndex f.lines = .ok lines ∧
      s = { name := f.name, links := f.links, linkIndex, stops := f.stops, lines } := by
  simp only [Scenario.ofFile] at h
  obtain ⟨linkIndex, hlinks, h⟩ := bind_eq_ok h
  obtain ⟨stopIndex, hstops, h⟩ := bind_eq_ok h
  obtain ⟨lines, hlines, h⟩ := bind_eq_ok h
  cases h
  obtain ⟨hlidx, hlnd⟩ := indexLinks_ok TextIndex.indexesFirst_empty List.nodup_nil hlinks
  obtain ⟨hsidx, hsnd, hon⟩ := indexStops_ok TextIndex.indexesFirst_empty List.nodup_nil hstops
  exact ⟨linkIndex, stopIndex, lines, by simpa using hlidx, by simpa using hlnd,
    by simpa using hsidx, by simpa using hsnd, hon, hlines, rfl⟩

/-- The link index of a checked scenario holds every link's id at its position, and link ids do
not repeat. -/
theorem ofFile_linkIndex {f : ScenarioFile} {s : Scenario} (h : Scenario.ofFile f = .ok s) :
    s.linkIndex.IndexesFirst (s.links.map Link.id) ∧ (s.links.map Link.id).Nodup := by
  obtain ⟨_, _, _, hidx, hnd, -, -, -, -, rfl⟩ := ofFile_eq_ok h
  exact ⟨hidx, hnd⟩

end Scenario

end TransitRouting
