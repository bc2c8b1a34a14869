import Lexicon.Http
import Lexicon.Proofs.Service

namespace Lexicon

open Text

namespace DiscardParam

/-- Items that tell names: each is a name with white space around it, or white space alone. -/
inductive Tells : List String → List String → Prop
  | nil : Tells [] []
  | name {before name after : String} {items names : List String} :
      allBlank before → allBlank after → Tells items names →
      Tells ((before ++ name ++ after) :: items) (name :: names)
  | empty {blank : String} {items names : List String} :
      allBlank blank → Tells items names → Tells (blank :: items) names

variable {items names : List String}

theorem comma_not_mem_of_tells (hnames : ∀ name ∈ names, Listable name) (h : Tells items names) :
    ∀ item ∈ items, ',' ∉ item.toList := by
  induction h with
  | nil => simp
  | name hbefore hafter _ ih =>
    rw [List.forall_mem_cons] at hnames
    exact List.forall_mem_cons.mpr
      ⟨comma_not_mem_of_padded hbefore hnames.1 hafter, ih hnames.2⟩
  | empty hblank _ ih =>
    exact List.forall_mem_cons.mpr ⟨comma_not_mem_of_blank hblank, ih hnames⟩

theorem mem_of_tells_iff (hnames : ∀ name ∈ names, Listable name) (h : Tells items names)
    (n : String) : (∃ item ∈ items, trim item.toList = n.toList ∧ n ≠ "") ↔ n ∈ names := by
  induction h with
  | nil => simp
  | name hbefore hafter _ ih =>
    rw [List.forall_mem_cons] at hnames
    rw [List.exists_mem_cons_iff, ih hnames.2, trim_of_padded hbefore hnames.1 hafter,
      String.toList_inj, List.mem_cons]
    refine or_congr_left ⟨fun hn => hn.1.symm, ?_⟩
    rintro rfl
    exact ⟨rfl, hnames.1.ne_empty⟩
  | empty hblank _ ih =>
    rw [List.exists_mem_cons_iff, ih hnames, trim_of_blank (List.all_eq_true.mp hblank)]
    refine or_iff_right fun hn => hn.2 ?_
    simpa using hn.1.symm

theorem requests_joined_iff (hnames : ∀ name ∈ names, Listable name) (h : Tells items names)
    (n : String) : (joined (",".intercalate items)).Requests n ↔ n ∈ names := by
  rw [← mem_names_iff, DiscardParam.names, mem_splitNames_iff]
  cases items with
  | nil =>
    cases h
    -- No items make the same text as an empty one, which does not count.
    have hsplit : splitCommas (",".intercalate []).toList = [[]] := by decide
    simp only [hsplit, List.mem_singleton, exists_eq_left, List.not_mem_nil, iff_false]
    exact fun hn => hn.2 (by simpa [trim, trimStart, trimEnd] using hn.1.symm)
  | cons item items =>
    have hcomma : ",".toList = [','] := by decide
    have hitems := comma_not_mem_of_tells hnames h
    rw [String.toList_intercalate, hcomma, List.map_cons,
      splitCommas_intercalate (by simpa using hitems), ← List.map_cons]
    simpa using mem_of_tells_iff hnames h n

end DiscardParam

theorem Walk.exists_order_eq {names others : List String} (h : ∀ n, n ∈ names ↔ n ∈ others)
    (w : Walk) : ∃ w' : Walk, w'.order others = w.order names := by
  refine ⟨⟨fun l => if l = others then w.order names else l, fun l n => ?_⟩, if_pos rfl⟩
  split
  · rename_i heq
    rw [w.mem_order, h, heq]
  · rfl

namespace Service

variable {s : Service} {q : Inquiry} {d d' : DiscardParam}

def Answers (s : Service) (q : Inquiry) (a : Except Failure Reply) : Prop := ∃ w, s.answer q w = a

def Refuses (s : Service) (q : Inquiry) (d : DiscardParam) (f : Failure) : Prop :=
  ∃ language x name, q.language = some language ∧ Dict.get? s.lexers language = some x ∧
    d.Requests name ∧ x.language.hasCategory name = false ∧
    f = .lexing (.configuration (.unknownCategory x.language.name name))

/-- The answers are the same, or each of them refuses another one of several such names. -/
def Alike (s : Service) (q : Inquiry) (d : DiscardParam) (a a' : Except Failure Reply) : Prop :=
  a = a' ∨ ∃ f f', f ≠ f' ∧ s.Refuses q d f ∧ s.Refuses q d f' ∧ a = .error f ∧ a' = .error f'

theorem exists_answer_eq (h : ∀ n, d.Requests n ↔ d'.Requests n) (w : Walk) :
    ∃ w', s.answer { q with discard := some d } w = s.answer { q with discard := some d' } w' := by
  have hnames : ∀ n, n ∈ d.names ↔ n ∈ d'.names := fun n => by
    rw [d.mem_names_iff, d'.mem_names_iff, h]
  obtain ⟨w', hw'⟩ := w.exists_order_eq hnames
  exact ⟨w', by simp only [answer, Option.map_some, hw']⟩

theorem answers_congr (h : ∀ n, d.Requests n ↔ d'.Requests n) (a : Except Failure Reply) :
    s.Answers { q with discard := some d } a ↔ s.Answers { q with discard := some d' } a := by
  constructor
  · rintro ⟨w, rfl⟩
    obtain ⟨w', hw'⟩ := exists_answer_eq (s := s) (q := q) h w
    exact ⟨w', hw'.symm⟩
  · rintro ⟨w, rfl⟩
    obtain ⟨w', hw'⟩ := exists_answer_eq (s := s) (q := q) (fun n => (h n).symm) w
    exact ⟨w', hw'.symm⟩

theorem alike_answer (h : ∀ n, d.Requests n ↔ d'.Requests n) (w w' : Walk) :
    s.Alike q d (s.answer { q with discard := some d' } w)
      (s.answer { q with discard := some d } w') := by
  have horders : ∀ n, n ∈ w.order d'.names ↔ n ∈ w'.order d.names := fun n => by
    rw [w.mem_order, w'.mem_order, d.mem_names_iff, d'.mem_names_iff, h]
  obtain ⟨language?, text?, _, annotate?⟩ := q
  cases language? with
  | none => simp [Alike, answer, demand, bind, Except.bind]
  | some language =>
  cases text? with
  | none => simp [Alike, answer, demand, bind, Except.bind]
  | some text =>
  by_cases hsize : s.settings.server.maxInputBytes < text.utf8ByteSize
  · simp [Alike, answer, demand, hsize, bind, Except.bind, throw, throwThe, MonadExceptOf.throw]
  cases hx : Dict.get? s.lexers language with
  | none => simp [Alike, answer, hx, demand, bind, Except.bind]
  | some x =>
  obtain hlex | ⟨m, hm, n, hn, hmn, hm', hn', hlex, hlex'⟩ := x.lexWith_congr text horders
  · exact .inl (by simp [answer, demand, bind, Except.bind, hx, hlex])
  · rw [w.mem_order, d'.mem_names_iff, ← h] at hm hn
    refine .inr ⟨_, _, by simpa using hmn, ⟨language, x, m, rfl, hx, hm, hm', rfl⟩,
      ⟨language, x, n, rfl, hx, hn, hn', rfl⟩, ?_, ?_⟩
    · simp [answer, demand, bind, Except.bind, hx, hlex, hsize, Except.mapError]
    · simp [answer, demand, bind, Except.bind, hx, hlex', hsize, Except.mapError]

end Service

namespace Http

structure Queries (r : Request) (q : Inquiry) : Prop where
  method_eq : r.method = "GET"
  path_eq : (splitUri r.uri).1 = "/lex"
  inquiry_eq : Form.inquiry (splitUri r.uri).2 = .ok q

structure Posts (r : Request) (q : Inquiry) : Prop where
  method_eq : r.method = "POST"
  path_eq : (splitUri r.uri).1 = "/lex"
  isJson : r.contentType.any MediaType.isJson
  size_le : r.body.size ≤ bodyLimit
  inquiry_eq : Body.inquiry r.body = .ok q

variable {s : Service} {r : Request} {q : Inquiry}

theorem route_of_queries (h : Queries r q) (w : Walk) : route s r w = respond s q w := by
  simp only [route, h.method_eq, h.path_eq, lexQuery, h.inquiry_eq]

theorem route_of_posts (h : Posts r q) (w : Walk) : route s r w = respond s q w := by
  have hsize : ¬ bodyLimit < r.body.size := Nat.not_lt.mpr h.size_le
  simp only [route, h.method_eq, h.path_eq, lexBody, h.isJson, hsize, h.inquiry_eq, Bool.not_true,
    Bool.false_eq_true, if_false]

theorem exists_respond_eq_iff (p : Response) :
    (∃ w, respond s q w = p) ↔ ∃ a, s.Answers q a ∧ .ofAnswer a = p := by
  simp [respond, Service.Answers]

end Http

namespace DiscardParam

theorem not_blank_of_all {c? : Option Char} (h : c?.all (!isBlank ·)) :
    ∀ c ∈ c?, isBlank c = false := by
  intro c hc
  simpa using (Option.all_eq_true _ _).mp h c hc

def spacedQuery : Http.Request :=
  { method := "GET", uri := "/lex?language=json&text=%5B1+%5D&discard=,+blank%09,,number," }

def listedBody : Http.Request :=
  { method := "POST", uri := "/lex", contentType := some "application/json"
    body := ("\x7b\"language\":\"json\",\"text\":\"[1 ]\"," ++
      "\"discard\":[\"blank\",\"number\"]\x7d").toUTF8 }

end DiscardParam

end Lexicon
