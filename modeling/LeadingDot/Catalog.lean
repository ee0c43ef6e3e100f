/-!
# Modifier catalog

The names that the lint looks for: the view modifiers of SwiftUI, and those that a
configuration adds. Look-up is exact and case-sensitive.
-/

namespace LeadingDot

/-- The modifiers that every scan knows, one of each name. -/
def builtinModifiers : List String :=
  ["_addingBackgroundGroup", "_addingBackgroundLayer", "_automaticPadding", "_colorMatrix",
   "_colorMonochrome", "_containerShape", "_cover", "_defaultContext", "_detached", "_identified",
   "_ignoresAutomaticPadding", "_lineHeightMultiple", "_listLinkedGroup", "_navigationDestination",
   "_onBindingChange", "_onButtonGesture", "_onEnvironmentChange", "_prefersDefaultFocus",
   "_productDescriptionHidden", "_safeAreaInsets", "_scrollable", "_statusBar", "_statusBarHidden",
   "_tightPadding", "_trait", "_untagged", "accentColor", "accessibility", "accessibilityAction",
   "accessibilityActions", "accessibilityActivationPoint", "accessibilityAddTraits",
   "accessibilityAdjustableAction", "accessibilityChartDescriptor", "accessibilityChildren",
   "accessibilityCustomContent", "accessibilityDirectTouch", "accessibilityElement",
   "accessibilityFocused", "accessibilityHeading", "accessibilityHidden", "accessibilityHint",
   "accessibilityIdentifier", "accessibilityIgnoresInvertColors", "accessibilityInputLabels",
   "accessibilityLabel", "accessibilityLabeledPair", "accessibilityLinkedGroup",
   "accessibilityQuickAction", "accessibilityRemoveTraits", "accessibilityRepresentation",
   "accessibilityRespondsToUserInteraction", "accessibilityRotor", "accessibilityRotorEntry",
   "accessibilityScrollAction", "accessibilityShowsLargeContentViewer",
   "accessibilitySortPriority", "accessibilityTextContentType", "accessibilityValue",
   "accessibilityZoomAction", "actionSheet", "addPassToWalletButtonStyle", "alert",
   "alignmentGuide", "allowedDynamicRange", "allowsHitTesting", "allowsTightening",
   "alternatingRowBackgrounds", "anchorPreference", "animation", "appStoreOverlay", "aspectRatio",
   "autocapitalization", "autocorrectionDisabled", "background", "backgroundPreferenceValue",
   "backgroundStyle", "badge", "badgeProminence", "baselineOffset", "blendMode", "blur", "bold",
   "border", "brightness", "buttonBorderShape", "buttonRepeatBehavior", "buttonStyle", "clipShape",
   "clipped", "colorEffect", "colorInvert", "colorMultiply", "colorScheme", "compositingGroup",
   "confirmationDialog", "containerBackground", "containerRelativeFrame", "containerShape",
   "contentMargins", "contentShape", "contentTransition", "contextMenu", "contrast",
   "controlGroupStyle", "controlSize", "coordinateSpace", "copyable", "cornerRadius", "cuttable",
   "datePickerStyle", "defaultAppStorage", "defaultFocus", "defaultHoverEffect",
   "defaultScrollAnchor", "defaultWheelPickerItemHeight", "defersSystemGestures", "deleteDisabled",
   "dialogIcon", "dialogSeverity", "dialogSuppressionToggle", "digitalCrownAccessory",
   "digitalCrownRotation", "disableAutocorrection", "disabled", "disclosureGroupStyle",
   "distortionEffect", "draggable", "drawingGroup", "dropDestination", "dynamicTypeSize",
   "edgesIgnoringSafeArea", "environment", "environmentObject", "equatable",
   "exportableToServices", "exportsItemProviders", "fileDialogBrowserOptions",
   "fileDialogConfirmationLabel", "fileDialogCustomizationID", "fileDialogDefaultDirectory",
   "fileDialogImportsUnresolvedAliases", "fileDialogMessage", "fileExporter",
   "fileExporterFilenameLabel", "fileImporter", "fileMover", "findDisabled", "findNavigator",
   "fixedSize", "flipsForRightToLeftLayoutDirection", "focusEffectDisabled", "focusScope",
   "focusSection", "focusable", "focused", "focusedObject", "focusedSceneObject",
   "focusedSceneValue", "focusedValue", "font", "fontDesign", "fontWeight", "fontWidth",
   "foregroundColor", "foregroundStyle", "formStyle", "frame", "fullScreenCover", "gaugeStyle",
   "geometryGroup", "gesture", "grayscale", "gridCellAnchor", "gridCellColumns",
   "gridCellUnsizedAxes", "gridColumnAlignment", "groupBoxStyle", "handlesExternalEvents",
   "headerProminence", "help", "hidden", "highPriorityGesture", "horizontalRadioGroupLayout",
   "hoverEffect", "hoverEffectDisabled", "hueRotation", "id", "ignoresSafeArea", "imageScale",
   "importableFromServices", "importsItemProviders", "indexViewStyle", "inspector",
   "inspectorColumnWidth", "interactionActivityTrackingTag", "interactiveDismissDisabled",
   "invalidatableContent", "italic", "itemProvider", "kerning", "keyboardShortcut", "keyboardType",
   "labelStyle", "labeledContentStyle", "labelsHidden", "layerEffect", "layoutDirectionBehavior",
   "layoutPriority", "layoutValue", "lineLimit", "lineSpacing", "listItemTint",
   "listRowBackground", "listRowHoverEffect", "listRowHoverEffectDisabled", "listRowInsets",
   "listRowPlatterColor", "listRowSeparator", "listRowSeparatorTint", "listRowSpacing",
   "listSectionSeparator", "listSectionSeparatorTint", "listSectionSpacing", "listStyle",
   "lookAroundViewer", "luminanceToAlpha", "manageSubscriptionsSheet", "mapCameraKeyframeAnimator",
   "mapControlVisibility", "mapControls", "mapFeatureSelectionContent",
   "mapFeatureSelectionDisabled", "mapScope", "mapStyle", "mask", "matchedGeometryEffect",
   "menuActionDismissBehavior", "menuButtonStyle", "menuIndicator", "menuOrder", "menuStyle",
   "minimumScaleFactor", "modelContainer", "modelContext", "modifier", "monospaced",
   "monospacedDigit", "moveDisabled", "multilineTextAlignment", "musicSubscriptionOffer",
   "navigationBarBackButtonHidden", "navigationBarHidden", "navigationBarItems",
   "navigationBarTitle", "navigationBarTitleDisplayMode", "navigationDestination",
   "navigationDocument", "navigationSplitViewColumnWidth", "navigationSplitViewStyle",
   "navigationSubtitle", "navigationTitle", "navigationViewStyle", "offerCodeRedemption", "offset",
   "onAppear", "onChange", "onCommand", "onContinueUserActivity", "onContinuousHover",
   "onCopyCommand", "onCutCommand", "onDeleteCommand", "onDisappear", "onDrag", "onDrop",
   "onExitCommand", "onHover", "onKeyPress", "onLongPressGesture", "onLongTouchGesture",
   "onMapCameraChange", "onMoveCommand", "onOpenURL", "onPasteCommand", "onPlayPauseCommand",
   "onPreferenceChange", "onReceive", "onSubmit", "onTapGesture", "opacity", "ornament", "overlay",
   "overlayPreferenceValue", "padding", "pageCommand", "paletteSelectionEffect",
   "pasteDestination", "payLaterViewAction", "payLaterViewDisplayStyle",
   "payWithApplePayButtonStyle", "persistentSystemOverlays", "phaseAnimator", "photosPicker",
   "photosPickerAccessoryVisibility", "photosPickerDisabledCapabilities", "photosPickerStyle",
   "pickerStyle", "popover", "position", "preference", "preferredColorScheme",
   "prefersDefaultFocus", "presentationBackground", "presentationBackgroundInteraction",
   "presentationCompactAdaptation", "presentationContentInteraction", "presentationCornerRadius",
   "presentationDetents", "presentationDragIndicator", "presentedWindowStyle",
   "presentedWindowToolbarStyle", "previewContext", "previewDevice", "previewDisplayName",
   "previewInterfaceOrientation", "previewLayout", "privacySensitive", "productIconBorder",
   "productViewStyle", "progressViewStyle", "projectionEffect", "quickLookPreview", "redacted",
   "refundRequestSheet", "renameAction", "replaceDisabled", "rotation3DEffect", "rotationEffect",
   "safeAreaInset", "safeAreaPadding", "saturation", "scaleEffect", "scaledToFill", "scaledToFit",
   "scenePadding", "scrollBounceBehavior", "scrollClipDisabled", "scrollContentBackground",
   "scrollDisabled", "scrollDismissesKeyboard", "scrollIndicators", "scrollIndicatorsFlash",
   "scrollPosition", "scrollTargetBehavior", "scrollTargetLayout", "searchCompletion",
   "searchDictationBehavior", "searchScopes", "searchSuggestions", "searchable",
   "selectionDisabled", "sensoryFeedback", "shadow", "sheet", "shortcutsLinkStyle",
   "signInWithAppleButtonStyle", "simultaneousGesture", "siriTipViewStyle", "speechAdjustedPitch",
   "speechAlwaysIncludesPunctuation", "speechAnnouncementsQueued", "speechSpellsOutCharacters",
   "springLoadingBehavior", "statusBar", "statusBarHidden", "storeButton", "strikethrough",
   "submitLabel", "submitScope", "subscriptionStoreButtonLabel",
   "subscriptionStoreControlBackground", "subscriptionStoreControlIcon",
   "subscriptionStoreControlStyle", "subscriptionStorePickerItemBackground",
   "subscriptionStorePolicyDestination", "subscriptionStorePolicyForegroundStyle",
   "subscriptionStoreSignInAction", "swipeActions", "symbolEffect", "symbolEffectsRemoved",
   "symbolRenderingMode", "symbolVariant", "tabItem", "tabViewStyle", "tableColumnHeaders",
   "tableStyle", "tag", "textCase", "textContentType", "textEditorStyle", "textFieldStyle",
   "textInputAutocapitalization", "textScale", "textSelection", "tint", "toggleStyle", "toolbar",
   "toolbarBackground", "toolbarColorScheme", "toolbarRole", "toolbarTitleDisplayMode",
   "toolbarTitleMenu", "touchBar", "touchBarCustomizationLabel", "touchBarItemPresence",
   "touchBarItemPrincipal", "tracking", "transaction", "transformAnchorPreference",
   "transformEffect", "transformEnvironment", "transformPreference", "transition",
   "truncationMode", "typeSelectEquivalent", "typesettingLanguage", "underline", "unredacted",
   "userActivity", "verifyIdentityWithWalletButtonStyle", "workoutPreview", "zIndex"]

/-- The modifiers that a scan looks for beside the built-in ones. -/
structure Catalog where
  additional : List String

namespace Catalog

/-- The catalog with some added names. The empty name is no modifier. -/
def ofNames (names : List String) : Catalog :=
  ⟨names.filter (· != "")⟩

/-- Whether a name is that of a known modifier. -/
def contains (catalog : Catalog) (name : String) : Bool :=
  builtinModifiers.contains name || catalog.additional.contains name

end Catalog

end LeadingDot
