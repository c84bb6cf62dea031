/-! # The tables of keywords

The words that a value may be, grouped into families by what they are used for. A word may stand in
several families; the order of the families decides which spelling a class name means. -/

namespace ClassSheet.Css.Keyword

/-- Names of colours. -/
def colorWords : List String :=
  ["aliceblue", "antiquewhite", "aqua", "aquamarine", "azure", "beige", "bisque", "black",
    "blanchedalmond", "blue", "blueviolet", "brown", "burlywood", "cadetblue", "chartreuse",
    "chocolate", "coral", "cornflowerblue", "cornsilk", "crimson", "cyan", "darkblue", "darkcyan",
    "darkgoldenrod", "darkgray", "darkgreen", "darkkhaki", "darkmagenta", "darkolivegreen",
    "darkorange", "darkorchid", "darkred", "darksalmon", "darkseagreen", "darkslateblue",
    "darkslategray", "darkturquoise", "darkviolet", "deeppink", "deepskyblue", "dimgray",
    "dodgerblue", "firebrick", "floralwhite", "forestgreen", "fuchsia", "gainsboro", "ghostwhite",
    "gold", "goldenrod", "gray", "green", "greenyellow", "honeydew", "hotpink", "indianred",
    "indigo", "ivory", "khaki", "lavender", "lavenderblush", "lawngreen", "lemonchiffon",
    "lightblue", "lightcoral", "lightcyan", "lightgoldenrodyellow", "lightgray", "lightgreen",
    "lightpink", "lightsalmon", "lightseagreen", "lightskyblue", "lightslategray", "lightsteelblue",
    "lightyellow", "lime", "limegreen", "linen", "magenta", "maroon", "mediumaquamarine",
    "mediumblue", "mediumorchid", "mediumpurple", "mediumseagreen", "mediumslateblue",
    "mediumspringgreen", "mediumturquoise", "mediumvioletred", "midnightblue", "mintcream",
    "mistyrose", "moccasin", "navajowhite", "navy", "oldlace", "olive", "olivedrab", "orange",
    "orangered", "orchid", "palegoldenrod", "palegreen", "paleturquoise", "palevioletred",
    "papayawhip", "peachpuff", "peru", "pink", "plum", "powderblue", "purple", "rebeccapurple",
    "red", "rosybrown", "royalblue", "saddlebrown", "salmon", "sandybrown", "seagreen", "seashell",
    "sienna", "silver", "skyblue", "slateblue", "slategray", "snow", "springgreen", "steelblue",
    "tan", "teal", "thistle", "tomato", "turquoise", "violet", "wheat", "white", "whitesmoke",
    "yellow", "yellowgreen", "transparent", "currentcolor"]

/-- Ways to display a box. -/
def displayWords : List String :=
  ["-webkit-box", "-webkit-inline-box", "block", "contents", "flex", "grid", "inline",
    "inline-block", "inline-flex", "inline-grid", "inline-table", "list-item", "none", "run-in",
    "ruby", "ruby-base", "ruby-base-container", "ruby-container", "ruby-position",
    "ruby-position-container", "ruby-text", "ruby-text-container", "table", "table-caption",
    "table-cell", "table-column", "table-column-group", "table-footer", "table-footer-group",
    "table-header", "table-header-group", "table-row", "table-row-group"]

/-- Line styles of a border; also the style word of a border shorthand. -/
def borderStyleWords : List String :=
  ["border-box", "content-box", "dashed", "dotted", "double", "groove", "hidden", "none", "inset",
    "outset", "ridge", "solid"]

/-- Flexible layout. -/
def flexWords : List String :=
  ["auto", "column", "column-reverse", "end", "flex", "flex-end", "flex-start", "inherit",
    "initial", "none", "nowrap", "revert", "revert-layer", "row", "row-reverse", "self-end",
    "self-start", "space-around", "space-between", "space-evenly", "start", "stretch", "unset",
    "wrap", "wrap-reverse"]

/-- Places of a list marker. -/
def listStylePositionWords : List String :=
  ["inside", "outside", "inherit", "initial", "unset"]

/-- Kinds of list marker. -/
def listStyleTypeWords : List String :=
  ["arabic-indic", "circle", "cjk-earthly-branch", "cjk-heavenly-stem", "cjk-ideographic",
    "cjk-ideographic-nl", "decimal", "decimal-leading-zero", "devanagari", "disc",
    "ethiopic-halehame-aa-er", "ethiopic-halehame-aa-et", "ethiopic-halehame-am-et",
    "ethiopic-halehame-sid-et", "ethiopic-numeric", "flex", "gurmukhi", "gujarati", "hiragana",
    "hiragana-iroha", "hiragana-nl", "hiragana-parenthesized", "katakana", "katakana-iroha",
    "katakana-nl", "katakana-parenthesized", "korean-hanja-formal", "korean-hangul-formal",
    "lower-alpha", "lower-alpha-academic", "lower-alpha-nl", "lower-alpha-traditional",
    "lower-georgian", "lower-greek", "lower-greek-nl", "lower-hexadecimal", "lower-latin",
    "lower-latin-academic", "lower-latin-nl", "lower-norwegian", "lower-roman", "lower-roman-nl",
    "none", "persian", "simp-chinese-formal", "simp-chinese-informal", "square",
    "trad-chinese-formal", "trad-chinese-informal", "upper-alpha", "upper-alpha-academic",
    "upper-alpha-nl", "upper-alpha-traditional", "upper-georgian", "upper-greek", "upper-greek-nl",
    "upper-hexadecimal", "upper-latin", "upper-latin-academic", "upper-norwegian", "upper-roman",
    "upper-roman-nl", "ruby", "ruby-base", "ruby-base-container", "ruby-container", "ruby-position",
    "ruby-position-container", "ruby-text", "ruby-text-container"]

/-- Widths. -/
def widthWords : List String :=
  ["auto", "available", "contain", "fill-available", "fit-content", "inherit", "initial",
    "max-content", "min-content", "none", "normal", "revert", "unset"]

/-- Heights. -/
def heightWords : List String :=
  ["auto", "available", "fill-available", "fit-content", "inherit", "initial", "max-content",
    "min-content", "none", "normal", "unset"]

/-- Font families; a class name writes them without spaces. -/
def fontFamilyWords : List String :=
  ["Arial", "Arial Black", "Comic Sans MS", "Courier New", "Georgia", "Helvetica", "Impact",
    "Lucida Console", "Lucida Sans Unicode", "Microsoft Sans Serif", "monospace", "sans-serif",
    "Serif", "system-ui", "Tahoma", "Times New Roman", "Trebuchet MS", "unset", "initial",
    "inherit", "Verdana"]

/-- Font styles. -/
def fontStyleWords : List String :=
  ["defer", "inherit", "initial", "italic", "normal", "oblique", "unset"]

/-- Font variants. -/
def fontVariantWords : List String :=
  ["normal", "small-caps", "inherit", "initial", "unset"]

/-- Font weights. -/
def fontWeightWords : List String :=
  ["bold", "bolder", "lighter", "normal", "inherit", "initial", "unset", "revert", "revert-layer"]

/-- Boxes of the box model. -/
def boxModelWords : List String :=
  ["border-box", "content-box", "inherit", "initial", "margin-box", "padding-box", "revert",
    "revert-layer", "unset"]

/-- Positioning schemes. -/
def positionWords : List String :=
  ["absolute", "fixed", "inherit", "initial", "relative", "static", "sticky", "unset", "revert",
    "revert-layer"]

/-- Text transformations. -/
def textTransformWords : List String :=
  ["capitalize", "inherit", "initial", "lowercase", "revert", "revert-layer", "unset", "uppercase"]

/-- Grid layout. -/
def gridWords : List String :=
  ["auto", "auto-fill", "auto-fit", "auto-flow", "column", "column dense", "dense", "fit-content",
    "inherit", "initial", "max-content", "min-content", "none", "repeat", "row", "row dense",
    "revert", "revert-layer", "unset"]

/-- Text alignments. -/
def textAlignWords : List String :=
  ["center", "end", "inherit", "initial", "justify", "left", "right", "unset", "revert",
    "revert-layer"]

/-- Visibilities. -/
def visibilityWords : List String :=
  ["collapse", "hidden", "inherit", "initial", "revert", "revert-layer", "unset", "visible"]

/-- Lines of a text decoration. -/
def textDecorationLineWords : List String :=
  ["blink", "line-through", "none", "overline", "underline", "inherit", "initial", "unset",
    "revert", "revert-layer"]

/-- Styles of a text decoration. -/
def textDecorationStyleWords : List String :=
  ["dashed", "dotted", "double", "inherit", "initial", "line-through", "none", "solid", "unset",
    "revert", "revert-layer"]

/-- Overflow behaviours. -/
def overflowWords : List String :=
  ["anywhere", "auto", "break-word", "clip", "hidden", "inherit", "initial", "normal", "revert",
    "revert-layer", "scroll", "unset", "visible"]

/-- Font sizes. -/
def fontSizeWords : List String :=
  ["absolute", "auto", "inherit", "initial", "larger", "large", "medium", "revert", "revert-layer",
    "smaller", "small", "unset", "xx-large", "x-large", "xx-small", "x-small", "xxx-large"]

/-- Font widths. -/
def fontStretchWords : List String :=
  ["condensed", "default", "extra-condensed", "extra-expanded", "expanded", "inherit", "initial",
    "normal", "narrow", "revert", "revert-layer", "semi-condensed", "semi-expanded", "unset",
    "ultra-condensed", "ultra-expanded"]

/-- Text overflow behaviours. -/
def textOverflowWords : List String :=
  ["clip", "ellipsis", "inherit", "initial", "unset", "revert", "revert-layer"]

/-- Easing functions. -/
def transitionWords : List String :=
  ["ease", "ease-in", "ease-in-out", "ease-out", "initial", "inherit", "linear", "step-end",
    "step-start"]

/-- Vertical alignments. -/
def verticalAlignWords : List String :=
  ["baseline", "bottom", "inherit", "initial", "middle", "sub", "super", "text-bottom", "text-top",
    "top", "unset", "revert", "revert-layer"]

/-- Cursors. -/
def cursorWords : List String :=
  ["alias", "all-scroll", "auto", "cell", "context-menu", "col-resize", "copy", "crosshair",
    "default", "e-resize", "ew-resize", "grab", "grabbing", "help", "move", "n-resize", "ne-resize",
    "nesw-resize", "ns-resize", "nw-resize", "nwse-resize", "no-drop", "none", "not-allowed",
    "pointer", "progress", "row-resize", "s-resize", "se-resize", "sw-resize", "text", "url",
    "vertical-text", "w-resize", "wait", "zoom-in", "zoom-out"]

/-- Image fits. -/
def imageWords : List String :=
  ["cover"]

/-- Every family with its name, in the order in which words are looked up. -/
def families : List (String × List String) :=
  [("color", colorWords), ("display", displayWords), ("border-style", borderStyleWords),
    ("flex", flexWords), ("list-style-position", listStylePositionWords),
    ("list-style-type", listStyleTypeWords), ("width", widthWords), ("height", heightWords),
    ("font-family", fontFamilyWords), ("font-style", fontStyleWords),
    ("font-variant", fontVariantWords), ("font-weight", fontWeightWords),
    ("box-model", boxModelWords), ("position", positionWords),
    ("text-transform", textTransformWords), ("grid", gridWords), ("text-align", textAlignWords),
    ("visibility", visibilityWords), ("text-decoration-line", textDecorationLineWords),
    ("text-decoration-style", textDecorationStyleWords), ("overflow", overflowWords),
    ("font-size", fontSizeWords), ("font-stretch", fontStretchWords),
    ("text-overflow", textOverflowWords), ("transition", transitionWords),
    ("vertical-align", verticalAlignWords), ("cursor", cursorWords), ("image", imageWords)]

end ClassSheet.Css.Keyword
