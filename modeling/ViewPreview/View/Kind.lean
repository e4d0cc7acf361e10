/-!
# View Kinds

Every view constructor that has a meaning of its own.  The set is closed: a constructor outside it
either stands for a custom view, shown as a placeholder, or is not a view at all.  `custom` has no
constructor name; it marks a view that cannot be shown.
-/

namespace ViewPreview

/-- The kinds of view. -/
inductive Kind where
  | vStack | hStack | zStack | list | form | listSection | scrollView | lazyVStack | lazyHStack
  | grid | gridRow | group | geometryReader | navigationView | navigationStack
  | navigationSplitView | tabView | disclosureGroup | menu | picker | text | image | spacer
  | button | toggle | textField | secureField | rectangle | circle | roundedRectangle | capsule
  | ellipse | divider | label | slider | stepper | datePicker | colorPicker | progressView
  | link | linearGradient | radialGradient | asyncImage | textEditor | navigationLink | forEach
  | custom
deriving Repr, DecidableEq, Inhabited

namespace Kind

/-- Every kind, in the order of its declaration. -/
def all : List Kind :=
  [.vStack, .hStack, .zStack, .list, .form, .listSection, .scrollView, .lazyVStack, .lazyHStack,
    .grid, .gridRow, .group, .geometryReader, .navigationView, .navigationStack,
    .navigationSplitView, .tabView, .disclosureGroup, .menu, .picker, .text, .image, .spacer,
    .button, .toggle, .textField, .secureField, .rectangle, .circle, .roundedRectangle, .capsule,
    .ellipse, .divider, .label, .slider, .stepper, .datePicker, .colorPicker, .progressView,
    .link, .linearGradient, .radialGradient, .asyncImage, .textEditor, .navigationLink, .forEach,
    .custom]

/-- The name of a kind, which is also the name of its constructor. -/
def name : Kind → String
  | .vStack => "VStack"
  | .hStack => "HStack"
  | .zStack => "ZStack"
  | .list => "List"
  | .form => "Form"
  | .listSection => "Section"
  | .scrollView => "ScrollView"
  | .lazyVStack => "LazyVStack"
  | .lazyHStack => "LazyHStack"
  | .grid => "Grid"
  | .gridRow => "GridRow"
  | .group => "Group"
  | .geometryReader => "GeometryReader"
  | .navigationView => "NavigationView"
  | .navigationStack => "NavigationStack"
  | .navigationSplitView => "NavigationSplitView"
  | .tabView => "TabView"
  | .disclosureGroup => "DisclosureGroup"
  | .menu => "Menu"
  | .picker => "Picker"
  | .text => "Text"
  | .image => "Image"
  | .spacer => "Spacer"
  | .button => "Button"
  | .toggle => "Toggle"
  | .textField => "TextField"
  | .secureField => "SecureField"
  | .rectangle => "Rectangle"
  | .circle => "Circle"
  | .roundedRectangle => "RoundedRectangle"
  | .capsule => "Capsule"
  | .ellipse => "Ellipse"
  | .divider => "Divider"
  | .label => "Label"
  | .slider => "Slider"
  | .stepper => "Stepper"
  | .datePicker => "DatePicker"
  | .colorPicker => "ColorPicker"
  | .progressView => "ProgressView"
  | .link => "Link"
  | .linearGradient => "LinearGradient"
  | .radialGradient => "RadialGradient"
  | .asyncImage => "AsyncImage"
  | .textEditor => "TextEditor"
  | .navigationLink => "NavigationLink"
  | .forEach => "ForEach"
  | .custom => "Custom"

/-- The kind that a constructor name stands for. -/
def ofName? (name : String) : Option Kind :=
  all.find? fun kind ↦ kind != .custom && kind.name == name

/-- The kinds whose trailing closure holds child views. -/
def isContainer : Kind → Bool
  | .vStack | .hStack | .zStack | .list | .form | .listSection | .scrollView | .lazyVStack
  | .lazyHStack | .grid | .gridRow | .group | .geometryReader | .navigationView
  | .navigationStack | .navigationSplitView | .tabView | .disclosureGroup | .menu | .picker => true
  | _ => false

/-- The shapes, which are filled with the foreground color instead of tinting text. -/
def isShape : Kind → Bool
  | .rectangle | .circle | .roundedRectangle | .capsule | .ellipse => true
  | _ => false

/-- The kinds that may be written as a bare name. -/
def isBareLeaf : Kind → Bool
  | .spacer | .divider => true
  | _ => false

/-- The kinds whose arguments may themselves be views. -/
def argumentsTakeViews : Kind → Bool
  | .navigationLink => true
  | _ => false

end Kind

end ViewPreview
