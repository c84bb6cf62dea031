import ClassSheet.Html.Load
import ClassSheet.Sheet.Pass

/-! # Pages with their rules

A pass over the text of a page: it gives the stylesheet and the page with the generated classes and
the `style` element. -/

namespace ClassSheet.Pass

/-- Why a page cannot be processed. -/
inductive Error where
  /-- The settings are refused. -/
  | config (e : Config.Error)
  /-- The page does not become a document. -/
  | page (e : Dom.Error)
  /-- The document refuses an edit. -/
  | dom (e : Dom.Error)
deriving DecidableEq

/-- The text of an error. -/
def Error.message : Error → String
  | config e => "Config error: " ++ e.message
  | page e => "Parse error: DOM construction failed: " ++ e.message
  | dom e => "DOM error: " ++ e.message

/-- The result of a pass over a page. -/
structure Output where
  /-- The rules, plain ones first. -/
  css : String
  /-- The page with the generated classes and the `style` element. -/
  html : String
  report : Report

/-- A pass over the text of a page with a sheet of its own. -/
def compilePage (page : String) (c : Config) : Except Error Output :=
  match Html.document page with
  | .error e => .error (.page e)
  | .ok d =>
    match c.check with
    | .error e => .error (.config e)
    | .ok () =>
      match Sheet.new d c.styleId with
      | (.error e, _) => .error (.dom e)
      | (.ok sheet, d) =>
        match run c d sheet with
        | (.error e, _, _) => .error (.dom e)
        | (.ok report, d, sheet) => .ok ⟨sheet.text, d.tree.outerHtml Dom.Tree.root, report⟩

end ClassSheet.Pass
