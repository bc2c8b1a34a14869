import Lexicon.Proofs.Settings.Overlay
import Lexicon.Settings.Decode

namespace Lexicon

namespace Settings

inductive Setting : Type
  | address : Setting
  | maxInputBytes : Setting
  | rawCategories : Setting
  | annotate : Setting
  | discard : String → Setting
  deriving DecidableEq

namespace Setting

def path : Setting → List String
  | address => ["server", "address"]
  | maxInputBytes => ["server", "max_input_bytes"]
  | rawCategories => ["render", "raw_categories"]
  | annotate => ["render", "annotate"]
  | discard language => ["languages", language, "discard"]

theorem eq_of_path_prefix {a b : Setting} (h : a.path <+: b.path) : a = b := by
  cases a <;> cases b <;> simp_all [path]

/-- The setting has the value, converted to its type. Only a set of categories to discard may be
missing, and is empty then. -/
def Has (c : Settings) : Setting → Option Value → Prop
  | address, some v => Decode.string v = .ok c.server.address
  | maxInputBytes, some v => Decode.unsigned v = .ok c.server.maxInputBytes
  | rawCategories, some v => Decode.strings v = .ok c.render.rawCategories
  | annotate, some v => Decode.boolean v = .ok c.render.annotate
  | discard language, some v => Decode.strings v = .ok (c.discardFor language)
  | discard language, none => c.discardFor language = []
  | _, none => False

theorem Has.of_shows {c : Settings} {σ : Setting} {v w : Value} (h : σ.Has c (some w))
    (hw : w.Shows v) : σ.Has c (some v) := by
  rcases hw with rfl | ⟨hw, -⟩
  · exact h
  · cases w with
    | scalar _ _ => cases hw
    | array _ _ => cases hw
    | table _ _ => cases σ <;> cases h

end Setting

namespace Decode

variable {α β γ : Type} {v : Value} {name segment : String} {a : α}

theorem under_eq_ok_iff {r : Except Error α} : under segment r = .ok a ↔ r = .ok a := by
  cases r <;> simp [under, Except.mapError]

theorem field_eq_ok_iff {f : Value → Except Error α} :
    field v name f = .ok a ↔ ∃ w, v.get? name = some w ∧ f w = .ok a := by
  rw [field]
  cases v.get? name with
  | none => simp
  | some w => simp [under_eq_ok_iff]

theorem field_pair_eq_ok {record nameA nameB : String} {f : Value → Except Error α}
    {g : Value → Except Error β} {mk : α → β → γ} {c : γ}
    (hfits : v.Fits [name, nameA] ∨ v.Fits [name, nameB])
    (h : field v name (pair record nameA nameB f g mk) = .ok c) :
    ∃ x y a b, v.lookup [name, nameA] = some x ∧ v.lookup [name, nameB] = some y ∧
      f x = .ok a ∧ g y = .ok b ∧ mk a b = c := by
  obtain ⟨w, hw, h⟩ := field_eq_ok_iff.mp h
  have htable : w.isTable := hfits.elim (fun hf => (hf.2 w hw).1) fun hf => (hf.2 w hw).1
  cases w with
  | scalar _ _ => cases htable
  | array _ _ => cases htable
  | table origin d =>
    simp only [pair, bind_eq_ok_iff, field_eq_ok_iff] at h
    obtain ⟨a, ⟨x, hx, ha⟩, b, ⟨y, hy, hb⟩, hc⟩ := h
    obtain rfl : mk a b = c := by simpa [pure, Except.pure] using hc
    exact ⟨x, y, a, b, by simp [Value.lookup, hw, hx], by simp [Value.lookup, hw, hy], ha, hb, rfl⟩

theorem get?_languages_go {d : List (String × Value)} {r : Dict (List String)}
    (h : languages.go d = .ok r) (name : String) :
    (Dict.get? d name = none ∧ r.get? name = none) ∨
      ∃ v l, Dict.get? d name = some v ∧ language v = .ok l ∧ r.get? name = some l := by
  induction d generalizing r with
  | nil =>
    obtain rfl : [] = r := by simpa [languages.go] using h
    exact .inl ⟨rfl, rfl⟩
  | cons e d ih =>
    obtain ⟨n, v⟩ := e
    simp only [languages.go, bind_eq_ok_iff, under_eq_ok_iff] at h
    obtain ⟨l, hl, more, hmore, hr⟩ := h
    obtain rfl : Dict.insert n l more = r := by simpa [pure, Except.pure] using hr
    rw [Dict.get?_cons, Dict.get?_insert]
    split
    · exact .inr ⟨v, l, rfl, hl, rfl⟩
    · exact ih hmore

theorem language_of_fits {l : List String} (hfits : v.Fits ["discard"]) (h : language v = .ok l) :
    match v.lookup ["discard"] with
    | some w => strings w = .ok l
    | none => l = [] := by
  cases v with
  | scalar _ _ => cases hfits.1
  | array _ _ => cases hfits.1
  | table origin d =>
    simp only [language] at h
    simp only [Value.lookup]
    cases hget : (Value.table origin d).get? "discard" with
    | none => simpa [hget, eq_comm] using h
    | some w => simpa [hget, under_eq_ok_iff] using h

end Decode

variable {c : Settings} {v : Value}

structure Decoded (v : Value) (c : Settings) : Prop where
  server_ok : Decode.field v "server" Decode.server = .ok c.server
  render_ok : Decode.field v "render" Decode.render = .ok c.render
  languages_ok : match v.get? "languages" with
    | some w => Decode.languages w = .ok c.languages
    | none => c.languages = []

theorem decoded_of_decode (h : decode v = .ok c) : Decoded v c := by
  simp only [decode, bind_eq_ok_iff] at h
  obtain ⟨s, hs, r, hr, h⟩ := h
  cases hget : v.get? "languages" with
  | none =>
    rw [hget] at h
    obtain rfl : Settings.mk s r [] = c := Except.ok.inj h
    exact ⟨hs, hr, by rw [hget]⟩
  | some w =>
    simp only [hget, bind_eq_ok_iff, Decode.under_eq_ok_iff] at h
    obtain ⟨l, hl, hc⟩ := h
    obtain rfl : Settings.mk s r l = c := by simpa [pure, Except.pure] using hc
    exact ⟨hs, hr, by rw [hget]; exact hl⟩

theorem Decoded.has_discard {language : String} (h : Decoded v c)
    (hfits : v.Fits ["languages", language, "discard"]) :
    Setting.Has c (.discard language) (v.lookup ["languages", language, "discard"]) := by
  have hlanguages := h.languages_ok
  cases hget : v.get? "languages" with
  | none =>
    simp only [hget] at hlanguages
    simp [Value.lookup, hget, Setting.Has, discardFor, hlanguages, Dict.get?]
  | some w =>
    simp only [hget] at hlanguages
    obtain ⟨htable, hfits⟩ := hfits.2 w hget
    cases w with
    | scalar _ _ => cases htable
    | array _ _ => cases htable
    | table origin d =>
      have hlookup : v.lookup ["languages", language, "discard"] =
          (Dict.get? d language).bind (Value.lookup ["discard"]) := by
        rw [Value.lookup, hget]
        rfl
      rcases Decode.get?_languages_go hlanguages language with ⟨hd, hc⟩ | ⟨u, l, hd, hl, hc⟩
      · rw [hlookup, hd]
        simp [Setting.Has, discardFor, hc]
      · have hl := Decode.language_of_fits (hfits u hd) hl
        rw [hlookup, hd, Option.bind_some]
        cases hu : u.lookup ["discard"] <;> simpa [Setting.Has, discardFor, hc, hu] using hl

theorem Decoded.has (h : Decoded v c) (σ : Setting) (hfits : v.Fits σ.path) :
    σ.Has c (v.lookup σ.path) := by
  cases σ with
  | address =>
    obtain ⟨x, y, a, b, hx, hy, ha, hb, hc⟩ := Decode.field_pair_eq_ok (.inl hfits) h.server_ok
    rw [Setting.path, hx]
    exact ha.trans (by rw [← hc])
  | maxInputBytes =>
    obtain ⟨x, y, a, b, hx, hy, ha, hb, hc⟩ := Decode.field_pair_eq_ok (.inr hfits) h.server_ok
    rw [Setting.path, hy]
    exact hb.trans (by rw [← hc])
  | rawCategories =>
    obtain ⟨x, y, a, b, hx, hy, ha, hb, hc⟩ := Decode.field_pair_eq_ok (.inl hfits) h.render_ok
    rw [Setting.path, hx]
    exact ha.trans (by rw [← hc])
  | annotate =>
    obtain ⟨x, y, a, b, hx, hy, ha, hb, hc⟩ := Decode.field_pair_eq_ok (.inr hfits) h.render_ok
    rw [Setting.path, hy]
    exact hb.trans (by rw [← hc])
  | discard language => exact h.has_discard hfits

end Settings

end Lexicon
