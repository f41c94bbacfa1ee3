namespace SchemaScaffold.Template.Shipped.Jpa

def application : List String := [
  "package ⟦⟦ packageName ⟧⟧;",
  "",
  "import org.springframework.boot.SpringApplication;",
  "import org.springframework.boot.autoconfigure.SpringBootApplication;",
  "⟦%- if config.useCache %⟧",
  "import org.springframework.cache.annotation.EnableCaching;",
  "⟦%- endif %⟧",
  "",
  "⟦% if config.useCache %⟧@EnableCaching",
  "⟦% endif -%⟧",
  "@SpringBootApplication",
  "public class ⟦⟦ className ⟧⟧Application ⟦",
  "",
  "    public static void main(String[] args) ⟦",
  "        SpringApplication.run(⟦⟦ className ⟧⟧Application.class, args);",
  "    ⟧",
  "⟧",
  ""]

def entity : List String := [
  "⟦%- macro cap(name) %⟧⟦⟦ name[:1] | upper ⟧⟧⟦⟦ name[1:] ⟧⟧⟦% endmacro -%⟧",
  "package ⟦⟦ packageName ⟧⟧.entity;",
  "⟦% for imp in imports %⟧",
  "import ⟦⟦ imp ⟧⟧;",
  "⟦%- endfor %⟧",
  "⟦%- if config.useLombok %⟧",
  "import lombok.Data;",
  "⟦%- endif %⟧",
  "import jakarta.persistence.Column;",
  "import jakarta.persistence.Entity;",
  "import jakarta.persistence.GeneratedValue;",
  "import jakarta.persistence.GenerationType;",
  "import jakarta.persistence.Id;",
  "import jakarta.persistence.Table;",
  "",
  "/**",
  " * ⟦⟦ tableComment or tableName ⟧⟧",
  " */",
  "⟦% if config.useLombok %⟧@Data",
  "⟦% endif -%⟧",
  "⟦% if config.useApiDocs %⟧@Schema(description = \"⟦⟦ tableComment or tableName ⟧⟧\")",
  "⟦% endif -%⟧",
  "@Entity",
  "@Table(name = \"⟦⟦ tableName ⟧⟧\")",
  "public class ⟦⟦ className ⟧⟧ ⟦",
  "⟦% for col in columns %⟧",
  "⟦%- if col.comment %⟧",
  "    /** ⟦⟦ col.comment ⟧⟧ */",
  "⟦%- endif %⟧",
  "⟦%- if config.useApiDocs %⟧",
  "    @Schema(description = \"⟦⟦ col.comment or col.columnName ⟧⟧\")",
  "⟦%- endif %⟧",
  "⟦%- if config.useValidation and not col.isPrimaryKey %⟧",
  "⟦%- if not col.nullable %⟧",
  "    @NotNull",
  "⟦%- endif %⟧",
  "⟦%- if col.maxLength and col.mappedType == \"String\" %⟧",
  "    @Size(max = ⟦⟦ col.maxLength ⟧⟧)",
  "⟦%- endif %⟧",
  "⟦%- endif %⟧",
  "⟦%- if col.isPrimaryKey %⟧",
  "    @Id",
  "    @GeneratedValue(strategy = GenerationType.IDENTITY)",
  "⟦%- endif %⟧",
  "    @Column(name = \"⟦⟦ col.columnName ⟧⟧\"⟦% if not col.nullable %⟧, nullable = false⟦% endif %⟧)",
  "    private ⟦⟦ col.mappedType ⟧⟧ ⟦⟦ col.propertyName ⟧⟧;",
  "⟦% endfor %⟧",
  "⟦%- if not config.useLombok %⟧",
  "⟦%- for col in columns %⟧",
  "    public ⟦⟦ col.mappedType ⟧⟧ get⟦⟦ cap(col.propertyName) ⟧⟧() ⟦",
  "        return ⟦⟦ col.propertyName ⟧⟧;",
  "    ⟧",
  "",
  "    public void set⟦⟦ cap(col.propertyName) ⟧⟧(⟦⟦ col.mappedType ⟧⟧ ⟦⟦ col.propertyName ⟧⟧) ⟦",
  "        this.⟦⟦ col.propertyName ⟧⟧ = ⟦⟦ col.propertyName ⟧⟧;",
  "    ⟧",
  "⟦% endfor %⟧",
  "⟦%- endif -%⟧",
  "⟧",
  ""]

def repository : List String := [
  "package ⟦⟦ packageName ⟧⟧.repository;",
  "",
  "import org.springframework.data.jpa.repository.JpaRepository;",
  "import org.springframework.stereotype.Repository;",
  "",
  "import ⟦⟦ packageName ⟧⟧.entity.⟦⟦ className ⟧⟧;",
  "",
  "/**",
  " * Data access for ⟦⟦ tableName ⟧⟧",
  " */",
  "@Repository",
  "public interface ⟦⟦ className ⟧⟧Repository extends JpaRepository<⟦⟦ className ⟧⟧, ⟦⟦ primaryKeyType ⟧⟧> ⟦",
  "⟧",
  ""]

def serviceImpl : List String := [
  "package ⟦⟦ packageName ⟧⟧.service.impl;",
  "",
  "import java.util.List;",
  "",
  "import org.springframework.stereotype.Service;",
  "⟦%- if config.usePagination %⟧",
  "import org.springframework.data.domain.PageRequest;",
  "⟦%- endif %⟧",
  "⟦%- if config.useCache %⟧",
  "import org.springframework.cache.annotation.CacheEvict;",
  "import org.springframework.cache.annotation.Cacheable;",
  "⟦%- endif %⟧",
  "",
  "import ⟦⟦ packageName ⟧⟧.entity.⟦⟦ className ⟧⟧;",
  "import ⟦⟦ packageName ⟧⟧.repository.⟦⟦ className ⟧⟧Repository;",
  "import ⟦⟦ packageName ⟧⟧.service.I⟦⟦ className ⟧⟧Service;",
  "",
  "@Service",
  "public class ⟦⟦ className ⟧⟧ServiceImpl implements I⟦⟦ className ⟧⟧Service ⟦",
  "",
  "    private final ⟦⟦ className ⟧⟧Repository ⟦⟦ classNameUncap ⟧⟧Repository;",
  "",
  "    public ⟦⟦ className ⟧⟧ServiceImpl(⟦⟦ className ⟧⟧Repository ⟦⟦ classNameUncap ⟧⟧Repository) ⟦",
  "        this.⟦⟦ classNameUncap ⟧⟧Repository = ⟦⟦ classNameUncap ⟧⟧Repository;",
  "    ⟧",
  "",
  "    @Override",
  "⟦%- if config.useCache %⟧",
  "    @Cacheable(value = \"⟦⟦ classNameUncap ⟧⟧\", key = \"#id\")",
  "⟦%- endif %⟧",
  "    public ⟦⟦ className ⟧⟧ getById(⟦⟦ primaryKeyType ⟧⟧ id) ⟦",
  "        return ⟦⟦ classNameUncap ⟧⟧Repository.findById(id).orElse(null);",
  "    ⟧",
  "",
  "    @Override",
  "    public List<⟦⟦ className ⟧⟧> list() ⟦",
  "        return ⟦⟦ classNameUncap ⟧⟧Repository.findAll();",
  "    ⟧",
  "⟦%- if config.usePagination %⟧",
  "",
  "    @Override",
  "    public List<⟦⟦ className ⟧⟧> page(long page, long size) ⟦",
  "        return ⟦⟦ classNameUncap ⟧⟧Repository.findAll(PageRequest.of((int) page - 1, (int) size)).getContent();",
  "    ⟧",
  "",
  "    @Override",
  "    public long count() ⟦",
  "        return ⟦⟦ classNameUncap ⟧⟧Repository.count();",
  "    ⟧",
  "⟦%- endif %⟧",
  "",
  "    @Override",
  "    public ⟦⟦ className ⟧⟧ create(⟦⟦ className ⟧⟧ entity) ⟦",
  "        return ⟦⟦ classNameUncap ⟧⟧Repository.save(entity);",
  "    ⟧",
  "",
  "    @Override",
  "⟦%- if config.useCache %⟧",
  "    @CacheEvict(value = \"⟦⟦ classNameUncap ⟧⟧\", allEntries = true)",
  "⟦%- endif %⟧",
  "    public boolean update(⟦⟦ className ⟧⟧ entity) ⟦",
  "        ⟦⟦ classNameUncap ⟧⟧Repository.save(entity);",
  "        return true;",
  "    ⟧",
  "",
  "    @Override",
  "⟦%- if config.useCache %⟧",
  "    @CacheEvict(value = \"⟦⟦ classNameUncap ⟧⟧\", key = \"#id\")",
  "⟦%- endif %⟧",
  "    public boolean delete(⟦⟦ primaryKeyType ⟧⟧ id) ⟦",
  "        if (!⟦⟦ classNameUncap ⟧⟧Repository.existsById(id)) ⟦",
  "            return false;",
  "        ⟧",
  "        ⟦⟦ classNameUncap ⟧⟧Repository.deleteById(id);",
  "        return true;",
  "    ⟧",
  "⟧",
  ""]

end SchemaScaffold.Template.Shipped.Jpa
