import QueryGate.Contract.Basic
/-!
The contract of a storefront: products, their categories, coupons and review statistics.
-/
set_option autoImplicit false

namespace QueryGate.Contract.Storefront

/-- A field with a description. -/
def describedField (type : FieldType) (description : String) : FieldInfo := ⟨type, some description⟩

/-- Products on sale. -/
def product : ResourceInfo where
  view := "products"
  description := some "Products on sale on the website"
  synonyms := ["products", "san_pham", "sản phẩm", "sp"]
  fields := .ofList [
    ("id", describedField .text "Product id"),
    ("category_id", describedField .identifier "Id of the product's category"),
    ("title", describedField .text "Product name"),
    ("origin_price", describedField .number "Price before discount"),
    ("sale_price", describedField .number "Price after discount"),
    ("discount", describedField .number "Discount in percent"),
    ("description", describedField .text "Product description"),
    ("quantity", describedField .number "Units in stock"),
    ("deleted", describedField .boolean "Whether the product was removed from sale"),
    ("created_at", describedField .timestamp "When the product was added")]
  defaultSelect := ["id", "title", "sale_price", "discount"]
  filterable := true
  sortable := true
  relations := .ofList [
    ("Category", ⟨.inner, "category_id", "Category", "id", "c"⟩),
    ("FeedbackStat", ⟨.left, "id", "FeedbackStat", "product_id", "fs"⟩)]

/-- The categories of products. -/
def category : ResourceInfo where
  view := "categories"
  description := some "Product categories"
  synonyms := ["category", "categories", "danh_muc", "danh mục"]
  fields := .ofList [
    ("id", describedField .identifier "Category id"),
    ("name", describedField .text "Category name, e.g. phones or laptops"),
    ("created_at", describedField .timestamp "When the category was created")]
  defaultSelect := ["id", "name"]
  filterable := true
  sortable := true
  relations := .empty

/-- Discount coupons. -/
def coupon : ResourceInfo where
  view := "coupons"
  description := some "Discount coupons"
  synonyms := ["coupons", "voucher", "vouchers", "khuyen_mai", "khuyến mãi", "km"]
  fields := .ofList [
    ("code", describedField .text "Coupon code"),
    ("discount", describedField .number "Discount in percent"),
    ("expiration_date", describedField .timestamp "Last day the coupon can be used"),
    ("expired", describedField .boolean "Whether the coupon has expired"),
    ("quantity", describedField .number "Coupons left"),
    ("created_at", describedField .timestamp "When the coupon was created")]
  defaultSelect := ["code", "discount", "expiration_date"]
  filterable := true
  sortable := true
  relations := .empty

/-- Review statistics of products. -/
def feedbackStat : ResourceInfo where
  view := "v_feedback_stats"
  description := some "Review statistics per product"
  synonyms := []
  fields := .ofList [
    ("product_id", describedField .text "Product id"),
    ("avg_star", describedField .number "Average star rating"),
    ("review_count", describedField .number "Number of reviews"),
    ("last_review_at", describedField .timestamp "When the last review was written")]
  defaultSelect := ["product_id", "avg_star", "review_count"]
  filterable := false
  sortable := false
  relations := .empty

/-- The contract of the storefront. -/
def contract : Contract :=
  ⟨.ofList [("Product", product), ("Category", category), ("Coupon", coupon), ("FeedbackStat", feedbackStat)]⟩

end QueryGate.Contract.Storefront
