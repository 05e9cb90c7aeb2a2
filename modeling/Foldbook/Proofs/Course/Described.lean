import Mathlib.Data.List.TakeWhile
import Foldbook.Proofs.Course.Step

/-!
# What the lines of a fold describe

A fold collects its request line by line.  `Description.ofLines?` says at
once what a list of own lines describes: comments carry the flags, and of
the other lines the first one that is not blank is the request line, with
the headers behind it up to a blank line and the body behind that.

`Fold.Drafts` is about an open fold: so far it has collected what these
lines describe.  `Fold.Drafts.takes`: one more line keeps it so, unless
reading it fails.
-/

namespace Foldbook

open Text

/-! ## Own lines -/

/-- The line is of the request itself: it is neither an assignment nor a comment. -/
def isPart (line : String) : Bool := !startsWith line "@" && !startsWith line "#"

/-- The comments among the own lines of a fold. -/
def comments (own : List String) : List String := own.filter (startsWith · "#")

/-- The lines of the request, from the request line on. -/
def requestLines (own : List String) : List String :=
  (own.filter isPart).dropWhile String.isEmpty

/-- The headers among the lines behind the request line. -/
def headersOf (behind : List String) : List String := behind.takeWhile (!·.isEmpty)

/-- The body among the lines behind the request line, if a blank line stands in front of it. -/
def bodyOf? (behind : List String) : Option String :=
  match behind.dropWhile (!·.isEmpty) with
  | [] => none
  | _ :: body => some (String.join body)

/-- The parts of a multipart form that comments add. -/
def formsOf (comments : List String) : List String := comments.filterMap Flag.form?

/-- The arguments for the client program that comments add. -/
def optionsOf (comments : List String) : List String :=
  comments.flatMap fun line => (Flag.options? line).getD []

/-- One of the comments carries the flag. -/
def carries (flag : String) (comments : List String) : Bool :=
  comments.any fun line => (Flag.behind? flag line).isSome

/-- The variable for the response: the last one that a comment names, or nothing. -/
def nameOf (comments : List String) : String :=
  (comments.filterMap Flag.name?).getLast?.getD ""

/-- A request as it is sent for a fold, and what becomes of the response. -/
structure Description where
  request : Request
  debug : Bool
  verbose : Bool
  /-- The variable that keeps the response, or nothing. -/
  name : String

/-- What the own lines of a fold describe, if one of them is a request line with an address. -/
def Description.ofLines? (own : List String) : Option Description :=
  match requestLines own with
  | [] => none
  | first :: behind =>
    (cutAt? [' '] first.toList).map fun (method, url) =>
      { request :=
          { method := upper (String.ofList method)
            url := String.ofList url
            headers := headersOf behind
            body := bodyOf? behind
            forms := formsOf (comments own)
            options := optionsOf (comments own) }
        debug := carries "@debug" (comments own)
        verbose := carries "@verbose" (comments own)
        name := nameOf (comments own) }

/-- What is asked to send it, if the response comes and can be kept. -/
def Description.questions (d : Description) (reply : Reply) : List Event :=
  .sent d.request d.debug d.verbose (.ok reply) ::
    if d.name.isEmpty then [] else [.captured d.name reply.value (.ok ())]

/-! ## One more line -/

variable {own : List String} {line : String}

/-- A line cannot be both an assignment and a comment. -/
theorem startsWith_hash_of_at (h : startsWith line "@" = true) : startsWith line "#" = false :=
  startsWith_eq_false_of_startsWith h (by decide) (by decide)

theorem isPart_of_at (h : startsWith line "@" = true) : isPart line = false := by
  rw [isPart, h]
  rfl

theorem isPart_of_hash (h : startsWith line "#" = true) : isPart line = false := by
  rw [isPart, h, Bool.not_true, Bool.and_false]

theorem comments_snoc (own : List String) (line : String) :
    comments (own ++ [line]) =
      if startsWith line "#" then comments own ++ [line] else comments own := by
  rw [comments, List.filter_append, comments]
  cases hline : startsWith line "#" <;> simp [hline]

theorem requestLines_snoc_of_not_isPart (h : isPart line = false) :
    requestLines (own ++ [line]) = requestLines own := by
  rw [requestLines, List.filter_append, List.filter_cons_of_neg (Bool.not_eq_true _ ▸ h)]
  exact congrArg _ (List.append_nil _)

/-- A line of the request is added, unless it is a blank one in front of the request line. -/
theorem requestLines_snoc_of_isPart (h : isPart line = true) :
    requestLines (own ++ [line]) =
      if (requestLines own).isEmpty then (if line.isEmpty then [] else [line])
      else requestLines own ++ [line] := by
  rw [requestLines, List.filter_append, List.filter_cons_of_pos h, List.dropWhile_append]
  cases hline : line.isEmpty <;> simp [hline, requestLines]

/-- Nothing of the request is there exactly if all of its lines are blank. -/
theorem requestLines_eq_nil_iff :
    requestLines own = [] ↔ ∀ line ∈ own, isPart line = true → line.isEmpty = true := by
  simp [requestLines, List.dropWhile_eq_nil_iff, List.mem_filter]

theorem headersOf_cons (line : String) (behind : List String) :
    headersOf (line :: behind) = if line.isEmpty then [] else line :: headersOf behind := by
  rw [headersOf, List.takeWhile_cons]
  cases line.isEmpty <;> rfl

theorem bodyOf?_cons (line : String) (behind : List String) :
    bodyOf? (line :: behind) =
      if line.isEmpty then some (String.join behind) else bodyOf? behind := by
  rw [bodyOf?, List.dropWhile_cons]
  cases line.isEmpty <;> rfl

/-- Behind the blank line every line goes into the body, and in front of it into the headers. -/
theorem headersOf_snoc (behind : List String) (line : String) :
    headersOf (behind ++ [line]) =
      if (bodyOf? behind).isSome || line.isEmpty then headersOf behind
      else headersOf behind ++ [line] := by
  induction behind with
  | nil =>
      rw [List.nil_append, headersOf_cons]
      rfl
  | cons first behind ih =>
      rw [List.cons_append, headersOf_cons, headersOf_cons, bodyOf?_cons, ih]
      cases first.isEmpty
      · simp only [Bool.false_eq_true, if_false]
        split <;> rfl
      · rfl

theorem bodyOf?_snoc (behind : List String) (line : String) :
    bodyOf? (behind ++ [line]) =
      match bodyOf? behind with
      | some body => some (body ++ line)
      | none => if line.isEmpty then some "" else none := by
  induction behind with
  | nil =>
      rw [List.nil_append, bodyOf?_cons]
      rfl
  | cons first behind ih =>
      rw [List.cons_append, bodyOf?_cons, bodyOf?_cons, ih]
      cases first.isEmpty
      · rfl
      · simp [String.join_append, String.join_cons]

/-! ## A fold that collects its request -/

namespace Fold

/-- The flags of the fold are those of these comments. -/
structure Flagged (f : Fold) (comments : List String) : Prop where
  forms : f.forms = formsOf comments
  options : f.options = optionsOf comments
  debug : f.debug = carries "@debug" comments
  verbose : f.verbose = carries "@verbose" comments
  name : f.captureName = nameOf comments

/-- The request of the fold is that of these lines, of which the first one is the request line. -/
structure Gathered (f : Fold) (lines : List String) : Prop where
  started : f.requestStarted = !lines.isEmpty
  address : ∀ first ∈ lines.head?, ∃ method,
    cutAt? [' '] first.toList = some (method, f.url.toList) ∧
      f.method = upper (String.ofList method)
  headers : f.headers = headersOf lines.tail
  bodyStarted : f.bodyStarted = (bodyOf? lines.tail).isSome
  body : f.body = (bodyOf? lines.tail).getD ""

/-- The fold has collected what these lines of its own describe. -/
structure Drafts (f : Fold) (own : List String) : Prop where
  flagged : f.Flagged (comments own)
  gathered : f.Gathered (requestLines own)

/-- The request of the fold, with all that goes with it. -/
def description (f : Fold) : Description :=
  { request := f.request, debug := f.debug, verbose := f.verbose, name := f.captureName }

variable {f g : Fold} {first : String} {behind : List String} {reading : Option (List Attempt)}

/-- A comment adds its flags. -/
theorem Flagged.readFlags {comments : List String} (h : f.Flagged comments) (line : String) :
    (f.readFlags line).Flagged (comments ++ [line]) where
  forms := by
    rw [formsOf, List.filterMap_append, ← formsOf, ← h.forms, Fold.readFlags]
    cases hform : Flag.form? line <;> simp [hform]
  options := by simp [Fold.readFlags, h.options, optionsOf]
  debug := by simp [Fold.readFlags, h.debug, carries]
  verbose := by simp [Fold.readFlags, h.verbose, carries]
  name := by
    rw [nameOf, List.filterMap_append, List.getLast?_append, Fold.readFlags, h.name, nameOf]
    cases hname : Flag.name? line <;> simp [hname]

/-- Any other line leaves the flags as they are. -/
theorem Flagged.readLine {comments : List String} (h : f.Flagged comments)
    (hline : startsWith line "#" = false) : (f.readLine line).Flagged comments := by
  rw [Fold.readLine, hline, if_neg Bool.false_ne_true]
  split
  · split
    · exact { h with }
    · rw [Fold.readRequestLine]
      split <;> exact { h with }
  · split
    · exact { h with }
    · split <;> exact { h with }

/-- A blank line in front of the request line is no part of the request. -/
theorem Gathered.readLine_blank (h : f.Gathered []) (hline : startsWith line "#" = false)
    (hempty : line.isEmpty = true) : (f.readLine line).Gathered [] := by
  have hstarted : f.requestStarted = false := h.started
  have hreads : f.readLine line = { f with output := f.output ++ "\n" } := by
    simp [Fold.readLine, hline, hstarted, hempty]
  rw [hreads]
  exact { h with }

/-- The request line gives the method and the address. -/
theorem Gathered.readLine_first (h : f.Gathered []) (hline : startsWith line "#" = false)
    (hempty : line.isEmpty = false) (hfailed : (f.readLine line).failed = false) :
    (f.readLine line).Gathered [line] := by
  have hstarted : f.requestStarted = false := h.started
  have hreads : f.readLine line = f.readRequestLine line := by
    simp [Fold.readLine, hline, hstarted, hempty]
  rw [hreads] at hfailed ⊢
  cases hcut : cutAt? [' '] line.toList with
  | none =>
      rw [failed_readRequestLine, hcut] at hfailed
      exact absurd hfailed (by simp)
  | some cut =>
      obtain ⟨method, url⟩ := cut
      have hreads : f.readRequestLine line =
          { f with
            sent := false
            method := upper (String.ofList method)
            url := String.ofList url
            requestStarted := true } := by
        rw [Fold.readRequestLine, hcut]
      rw [hreads]
      refine ⟨rfl, fun first hfirst => ?_, h.headers, h.bodyStarted, h.body⟩
      obtain rfl : line = first := Option.some.inj hfirst
      exact ⟨method, by rw [hcut, String.toList_ofList], rfl⟩

/-- A line behind the request line is a header, ends the headers, or is of the body. -/
theorem Gathered.readLine_behind (h : f.Gathered (first :: behind))
    (hline : startsWith line "#" = false) :
    (f.readLine line).Gathered (first :: (behind ++ [line])) := by
  have hstarted : f.requestStarted = true := h.started
  have hbodyStarted : f.bodyStarted = (bodyOf? behind).isSome := h.bodyStarted
  have hbody : f.body = (bodyOf? behind).getD "" := h.body
  have hheaders : f.headers = headersOf behind := h.headers
  have haddress := h.address
  cases hbehind : bodyOf? behind with
  | some body =>
      have hreads : f.readLine line = { f with body := f.body ++ line } := by
        simp [Fold.readLine, hline, hstarted, hbodyStarted, hbehind]
      rw [hreads]
      refine ⟨hstarted, haddress, ?_, ?_, ?_⟩
      · simp [headersOf_snoc, hbehind, hheaders]
      · simp [bodyOf?_snoc, hbehind, hbodyStarted]
      · simp [bodyOf?_snoc, hbehind, hbody]
  | none =>
      rw [hbehind] at hbodyStarted hbody
      cases hempty : line.isEmpty with
      | true =>
          have hreads : f.readLine line = { f with bodyStarted := true } := by
            simp [Fold.readLine, hline, hstarted, hbodyStarted, hempty]
          rw [hreads]
          refine ⟨hstarted, haddress, ?_, ?_, ?_⟩
          · simp [headersOf_snoc, hempty, hheaders]
          · simp [bodyOf?_snoc, hbehind, hempty]
          · simp [bodyOf?_snoc, hbehind, hempty, hbody]
      | false =>
          have hreads : f.readLine line = { f with headers := f.headers ++ [line] } := by
            simp [Fold.readLine, hline, hstarted, hbodyStarted, hempty]
          rw [hreads]
          refine ⟨hstarted, haddress, ?_, ?_, ?_⟩
          · simp [headersOf_snoc, hbehind, hempty, hheaders]
          · simp [bodyOf?_snoc, hbehind, hempty, hbodyStarted]
          · simp [bodyOf?_snoc, hbehind, hempty, hbody]

namespace Drafts

/-- A fold begins with nothing. -/
theorem of_heading (heading : Marker.Heading) (depth : Nat) : (heading.fold depth).Drafts [] where
  flagged := ⟨rfl, rfl, rfl, rfl, rfl⟩
  gathered := ⟨rfl, by simp [requestLines], rfl, rfl, rfl⟩

/-- Behind its request line a fold has the request that its lines describe. -/
theorem ofLines?_eq (h : f.Drafts own) (hstarted : f.requestStarted = true) :
    Description.ofLines? own = some f.description := by
  obtain ⟨hflagged, hgathered⟩ := h
  rw [Description.ofLines?]
  cases hlines : requestLines own with
  | nil =>
      rw [hlines] at hgathered
      exact absurd (hstarted.symm.trans hgathered.started) (by decide)
  | cons first behind =>
      rw [hlines] at hgathered
      obtain ⟨method, hcut, hmethod⟩ := hgathered.address first rfl
      have hbody : (if f.bodyStarted then some f.body else none) = bodyOf? behind := by
        rw [hgathered.bodyStarted, hgathered.body, List.tail_cons]
        cases bodyOf? behind <;> rfl
      have hheaders : f.headers = headersOf behind := hgathered.headers
      simp only [hcut, Option.map_some, String.ofList_toList, description, request, hbody,
        hheaders, hmethod, hflagged.forms, hflagged.options, hflagged.debug, hflagged.verbose,
        hflagged.name]

/-- A line of its own that the fold reads is collected, unless reading it fails. -/
theorem readLine (h : f.Drafts own) (hat : startsWith line "@" = false)
    (hfailed : (f.readLine line).failed = false) : (f.readLine line).Drafts (own ++ [line]) := by
  obtain ⟨hflagged, hgathered⟩ := h
  cases hhash : startsWith line "#" with
  | true =>
      have hreads : f.readLine line = f.readFlags line := by
        rw [Fold.readLine, if_pos hhash]
      have hcomments : comments (own ++ [line]) = comments own ++ [line] := by
        rw [comments_snoc, if_pos hhash]
      have hlines : requestLines (own ++ [line]) = requestLines own :=
        requestLines_snoc_of_not_isPart (isPart_of_hash hhash)
      rw [hreads]
      exact ⟨hcomments ▸ hflagged.readFlags line, hlines ▸ { hgathered with }⟩
  | false =>
      have hcomments : comments (own ++ [line]) = comments own := by
        rw [comments_snoc, hhash, if_neg Bool.false_ne_true]
      have hpart : isPart line = true := by rw [isPart, hat, hhash]; rfl
      refine ⟨hcomments ▸ hflagged.readLine hhash, ?_⟩
      rw [requestLines_snoc_of_isPart hpart]
      cases hlines : requestLines own with
      | nil =>
          rw [hlines] at hgathered
          cases hempty : line.isEmpty with
          | true => exact hgathered.readLine_blank hhash hempty
          | false => exact hgathered.readLine_first hhash hempty hfailed
      | cons first behind =>
          rw [hlines] at hgathered
          exact hgathered.readLine_behind hhash

/-- So is every line that the fold takes. -/
theorem takes (h : f.Drafts own) (htakes : f.Takes line reading g) (hfailed : g.failed = false) :
    g.Drafts (own ++ [line]) := by
  have hkept : (f.keepLine line).Drafts own := ⟨{ h.flagged with }, { h.gathered with }⟩
  cases htakes with
  | kept hf => exact absurd (hf.symm.trans hfailed) (by decide)
  | read _ hhears =>
      cases hhears with
      | assigned text hat =>
          have hcomments : comments (own ++ [line]) = comments own := by
            rw [comments_snoc, startsWith_hash_of_at hat, if_neg Bool.false_ne_true]
          have hlines : requestLines (own ++ [line]) = requestLines own :=
            requestLines_snoc_of_not_isPart (isPart_of_at hat)
          exact ⟨hcomments ▸ { hkept.flagged with }, hlines ▸ { hkept.gathered with }⟩
      | refused e => exact absurd hfailed (by simp)
      | own hat => exact hkept.readLine hat hfailed

end Drafts

end Fold

end Foldbook
